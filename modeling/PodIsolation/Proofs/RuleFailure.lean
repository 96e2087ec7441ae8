import Mathlib.Algebra.GroupWithZero.Nat
import PodIsolation.Proofs.CompletedRun
import PodIsolation.Proofs.ReadiedChains

/-!
# Failures of rules

## What a run leaves behind that cannot add all its rules

A rule that cannot be added is counted, and the run goes on with the next one.
So each rule of the rule set and of the baseline is tried once, in order, and the
report tells how many attempts succeeded and how many failed.  As the own chains
are empty before the first attempt, they end with the rules that were added, each
once, whatever they held before.
-/

namespace PodIsolation

/-- Whether the action adds a rule at the end of a chain. -/
def FilterAction.appends : FilterAction -> Bool
  | .ensureRule .append _ => true
  | _ => false

namespace Transcript

/-- The attempts to add a rule at the end of a chain, with their replies. -/
def attempts (log : Transcript) : Transcript :=
  log.filter fun entry => entry.1.action.appends

/-- The calls about a chain, with their replies. -/
def about (log : Transcript) (f : Family) (name : String) : Transcript :=
  log.filter fun entry => entry.1.family = f ∧ entry.1.chain = name

def succeeded (log : Transcript) : Nat :=
  log.countP fun entry => entry.2.isOk

def failed (log : Transcript) : Nat :=
  log.countP fun entry => !entry.2.isOk

variable {log : Transcript}

@[simp] theorem succeeded_cons_ok (c : FilterCall) (answer : Bool) (log : Transcript) :
    succeeded ((c, .ok answer) :: log) = log.succeeded + 1 :=
  List.countP_cons_of_pos rfl

@[simp] theorem failed_cons_error (c : FilterCall) (e : FilterError) (log : Transcript) :
    failed ((c, .error e) :: log) = log.failed + 1 :=
  List.countP_cons_of_pos rfl

theorem succeeded_add_failed (log : Transcript) : log.succeeded + log.failed = log.length := by
  unfold succeeded failed
  rw [List.length_eq_countP_add_countP fun entry : FilterCall × FilterReply => entry.2.isOk]
  simp

@[simp] theorem attempts_append (log log' : Transcript) :
    (log ++ log').attempts = log.attempts ++ log'.attempts := by
  simp [attempts]

theorem mem_obeyed {entry : FilterCall × FilterReply} (h : entry ∈ log)
    (hok : entry.2.isOk = true) : entry.1 ∈ log.obeyed :=
  List.mem_map_of_mem (List.mem_filter.mpr ⟨h, hok⟩)

theorem obeyed_about (log : Transcript) (f : Family) (name : String) :
    (log.about f name).obeyed =
      log.obeyed.filter fun q => q.family = f ∧ q.chain = name := by
  unfold about obeyed
  rw [List.filter_map, List.filter_filter, List.filter_filter]
  congr 1
  exact List.filter_congr fun entry _ => Bool.and_comm _ _

/-- Of the installations that were tried, some succeeded. -/
theorem exists_kept {installations : List Installation}
    (h : log.map Prod.fst = installations.map Installation.call) :
    exists kept : List Installation, log.obeyed = kept.map Installation.call := by
  induction installations generalizing log with
  | nil =>
      rw [List.map_nil, List.map_eq_nil_iff] at h
      subst h
      exact ⟨[], rfl⟩
  | cons i rest ih =>
      rcases List.map_eq_cons_iff.mp h with ⟨⟨c, reply⟩, log', rfl, hc, hrest⟩
      rcases ih hrest with ⟨kept, hobeyed⟩
      cases reply with
      | error e => exact ⟨kept, hobeyed⟩
      | ok answer =>
          refine ⟨i :: kept, ?_⟩
          have hcall : c = i.call := hc
          rw [obeyed_cons_ok, hobeyed, hcall, List.map_cons]

end Transcript

/-!
# Adding rules
-/

namespace Contents

variable {contents : Contents} {added : List (List String)} {args : List String}

theorem mem_foldl_ensureLast :
    args ∈ (added.foldl ensureLast contents).rules <-> args ∈ contents.rules ∨ args ∈ added := by
  induction added generalizing contents with
  | nil => simp
  | cons first rest ih =>
      rw [List.foldl_cons, ih, ensureLast, mem_rules_append, List.mem_cons, or_assoc]

end Contents

namespace Tables

variable {t u : Tables} {installations : List Installation} {log : Transcript}

/-- Each installation is tried once, in order, and counted. -/
theorem recorded_installAll {report last : Report}
    (h : Recorded t (installAll report installations) log u last) :
    log.map Prod.fst = installations.map Installation.call ∧
      last.installed = report.installed + log.succeeded ∧
      last.failed = report.failed + log.failed := by
  induction installations generalizing t report log with
  | nil =>
      cases h with
      | done => exact ⟨rfl, rfl, rfl⟩
  | cons i rest ih =>
      cases h with
      | obeyed h =>
          obtain ⟨hcalls, hinstalled, hfailed⟩ := ih h
          refine ⟨congrArg (i.call :: ·) hcalls, ?_, hfailed⟩
          simp only [hinstalled, Transcript.succeeded_cons_ok, Report.record]
          omega
      | refused e h =>
          obtain ⟨hcalls, hinstalled, hfailed⟩ := ih h
          refine ⟨congrArg (i.call :: ·) hcalls, hinstalled, ?_⟩
          simp only [hfailed, Transcript.failed_cons_error, Report.record]
          omega

/-- What a chain holds after rules were tried. -/
theorem contents_tried (h : log.map Prod.fst = installations.map Installation.call)
    (hu : u = log.obeyed.foldl Tables.apply t) (f : Family) (name : String) :
    u.contents f name = ((log.about f name).obeyed.map fun q => q.action.args).foldl
      Contents.ensureLast (t.contents f name) := by
  rcases Transcript.exists_kept h with ⟨kept, hobeyed⟩
  have hinstall : u = t.install kept := by
    rw [hu, hobeyed, List.foldl_map]
    rfl
  rw [hinstall, contents_install, Transcript.obeyed_about, hobeyed, List.filter_map, List.map_map]
  rfl

end Tables

namespace RuleSet

variable {s : RuleSet} {t : Tables} {log : Transcript}

/-- Once all chains are readied, those with rules are empty. -/
theorem own_readied (s : RuleSet) (t : Tables) {c : ChainId} (h : s.rules c ≠ []) :
    (s.order.foldl s.ready t).contents c.family c.name = some [] := by
  have hlane := s.lane_foldl_ready s.nodup_order t c
  rw [if_pos (s.mem_order c), readyLane, if_neg h] at hlane
  exact congrArg Prod.fst hlane

/-- Once all chains are readied, those without rules are empty if they exist. -/
theorem own_retired (s : RuleSet) (t : Tables) {c : ChainId} (h : s.rules c = []) :
    (s.order.foldl s.ready t).contents c.family c.name = none ∨
      (s.order.foldl s.ready t).contents c.family c.name = some [] := by
  have hlane := s.lane_foldl_ready s.nodup_order t c
  rw [if_pos (s.mem_order c), readyLane, if_pos h] at hlane
  have hown : (s.order.foldl s.ready t).contents c.family c.name =
      (c.retireLane (t.lane c)).1 := congrArg Prod.fst hlane
  rw [hown]
  rcases t.lane c with ⟨_ | rules, gate⟩
  · exact Or.inl rfl
  · exact Or.inr rfl

theorem length_installations (s : RuleSet) :
    s.installations.length = (s.live.map fun c => (s.rules c).length + 1).sum + 12 := by
  have hchain : forall c, (s.chainInstallations c).length = (s.rules c).length + 1 := by
    intro c
    simp [chainInstallations]
  simp [installations, List.length_flatMap, hchain, baseline]

/-- The rules that are tried for a chain are those that the rule set adds to it. -/
theorem about_eq_additions (h : log.map Prod.fst = s.installations.map Installation.call)
    (f : Family) (name : String) :
    ((log.about f name).map fun entry => entry.1.action.args) = s.additions f name := by
  have hcalls : ((log.map Prod.fst).filter fun q => q.family = f ∧ q.chain = name).map
      (fun q => q.action.args) = s.additions f name := by
    rw [h, List.filter_map, List.map_map]
    rfl
  rw [← hcalls, List.filter_map, List.map_map]
  rfl

theorem attempts_of_installations
    (h : log.map Prod.fst = s.installations.map Installation.call) : log.attempts = log := by
  apply List.filter_eq_self.mpr
  intro entry hentry
  rcases List.mem_map.mp (Transcript.call_mem h hentry) with ⟨i, -, hi⟩
  rw [← hi]
  rfl

theorem attempts_of_readying {chains : List ChainId}
    (h : log.Serves (chains.flatMap (s.readying t))) : log.attempts = [] := by
  apply List.filter_eq_nil_iff.mpr
  intro entry hentry
  rcases List.mem_flatMap.mp (Transcript.call_mem h.left hentry) with ⟨c, -, hc⟩
  have hnot := action_ne_append (s.readying_subset t c hc)
  unfold FilterAction.appends
  split
  · rename_i args haction
    exact absurd haction (hnot args)
  · simp

end RuleSet

/-!
# Runs that end with a report
-/

namespace Kernel

/-- A run that ends with a report has tried each rule of the rule set, each
return, and each rule of the baseline once, in order.  The report counts the
attempts that succeeded and those that failed.  Each chain with rules ends with
the first occurrences of those that were added, each other own chain is empty if
it exists, and every rule that was added is in its chain at the end. -/
theorem provision_accounted {h : Host Kernel} (hfaulting : h.Faulting) {k : Kernel} {s : RuleSet}
    {report : Report} (hreport : (h.provision k s).2 = some (.ok report)) :
    let u := (h.provision k s).1.tables s.netns
    let attempts := (h.transcript k s).attempts
    ((h.provision k s).1.events = k.events ++ .enter s.netns ::
      ((h.transcript k s).map (fun entry => .call entry.1) ++ [.leave s.netns])) ∧
    attempts.map Prod.fst = s.installations.map Installation.call ∧
    (forall c : ChainId, s.rules c ≠ [] ->
      ((attempts.about c.family c.name).map fun entry => entry.1.action.args) =
        (s.rules c ++ [Rule.returning]).map Rule.args ∧
      u.contents c.family c.name =
        some ((attempts.about c.family c.name).obeyed.map fun q => q.action.args).eraseDups) ∧
    (forall c : ChainId, s.rules c = [] ->
      u.contents c.family c.name = none ∨ u.contents c.family c.name = some []) ∧
    report.installed + report.failed = (s.live.map fun c => (s.rules c).length + 1).sum + 12 ∧
    report.installed = attempts.succeeded ∧ report.failed = attempts.failed ∧
    (forall entry, entry ∈ attempts -> entry.2.isOk = true ->
      entry.1.action.args ∈ (u.contents entry.1.family entry.1.chain).rules) := by
  intro u attempts
  obtain ⟨hrecorded, hevents⟩ := recorded_provision hfaulting s hreport (by simp)
  rcases RuleSet.readies_of_program hrecorded with
    ⟨_, hresult, _⟩ | ⟨first, log, _, hresult, hlog, hreadies, hinstall⟩
  · cases hresult
  cases hresult
  obtain ⟨hcalls, hinstalled, hfailed⟩ := Tables.recorded_installAll hinstall
  have hattempts : attempts = log := by
    have hfirst := RuleSet.attempts_of_readying (hreadies.serves rfl s.nodup_order)
    rw [show attempts = (first ++ log).attempts from congrArg Transcript.attempts hlog,
      Transcript.attempts_append, hfirst, RuleSet.attempts_of_installations hcalls]
    rfl
  have hcontents := Tables.contents_tried hcalls hinstall.tables
  have htried := RuleSet.about_eq_additions hcalls
  rw [hattempts]
  refine ⟨hevents, hcalls, ?_, ?_, ?_, by simpa using hinstalled, by simpa using hfailed, ?_⟩
  · intro c hrules
    have hadditions := htried c.family c.name
    rw [s.additions_name c, if_neg hrules] at hadditions
    refine ⟨hadditions, ?_⟩
    rw [hcontents, s.own_readied _ hrules, Contents.foldl_ensureLast_nil]
  · intro c hrules
    have hadditions := htried c.family c.name
    rw [s.additions_name c, if_pos hrules, List.map_eq_nil_iff] at hadditions
    rw [hcontents, hadditions]
    exact s.own_retired _ hrules
  · calc
      report.installed + report.failed = log.succeeded + log.failed := by
        simp [hinstalled, hfailed]
      _ = (log.map Prod.fst).length := by
        rw [Transcript.succeeded_add_failed, List.length_map]
      _ = (s.live.map fun c => (s.rules c).length + 1).sum + 12 := by
        rw [hcalls, List.length_map, s.length_installations]
  · intro entry hentry hok
    rw [hcontents, Contents.mem_foldl_ensureLast, Transcript.obeyed_about]
    right
    apply List.mem_map_of_mem (f := fun q : FilterCall => q.action.args)
    exact List.mem_filter.mpr ⟨Transcript.mem_obeyed hentry hok, by simp⟩

/-- A rule that is listed twice can be added only the second time, and forwarding
is not rejected in either family.  The chain held another rule before. -/
theorem provision_accounted_with_repeated_rule :
    let before : Tables := Tables.ofTagged
      [("v4 DANM_INGRESS_V4", [["-s", "10.0.0.9/32", "-j", "ACCEPT"]])]
    let k : Kernel :=
      { namespaces := SortedMap.ofList [("/run/netns/pod", before)]
        faults := [ { arg := some "tcp", times := some 1 },
          { chain := some "FORWARD", arg := some "REJECT" } ] }
    let s : RuleSet :=
      { netns := "/run/netns/pod",
        rules := fun c => if c = ⟨.ingress, .v4⟩ then
          [{ protocol := some .tcp }, { protocol := some .udp }, { protocol := some .tcp }]
        else [] }
    let u := (host.provision k s).1.tables s.netns
    host.Faulting ∧ (host.provision k s).2 = some (.ok { installed := 13, failed := 3 }) ∧
    (host.transcript k s).attempts.failed = 3 ∧
    u.contents .v4 "DANM_INGRESS_V4" =
      some [["-p", "udp", "-j", "ACCEPT"], ["-p", "tcp", "-j", "ACCEPT"], ["-j", "RETURN"]] ∧
    u.contents .v4 "FORWARD" = some [["-i", "lo", "-j", "ACCEPT"]] ∧
    13 + 3 = (s.live.map fun c => (s.rules c).length + 1).sum + 12 := by
  intro before k s u
  have hreport : (host.provision k s).2 = some (.ok { installed := 13, failed := 3 }) := by
    decide +kernel
  obtain ⟨-, -, -, -, hsum, -, hfailed, -⟩ := provision_accounted faulting_host hreport
  exact ⟨faulting_host, hreport, hfailed.symm, by decide +kernel, by decide +kernel, hsum⟩

end Kernel

end PodIsolation
