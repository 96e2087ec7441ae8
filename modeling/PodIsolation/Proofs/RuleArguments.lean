import PodIsolation.Iptables.Driver
import PodIsolation.Proofs.PacketVerdict

/-!
# Arguments of rules

## Rules that are written alike

The arguments of a rule are flags with values, where any text may be a value, also
one that looks like a flag.  They can still be read in one way only: flags stand at
the even positions, each at most once, and the target is always there.  So two rules
are written alike only if they agree in every criterion and in the target, as far as
the text of a port or a target tells.  A rule that is found by its arguments is
therefore one that does the same.
-/

namespace PodIsolation

theorem Protocol.name_inj {p q : Protocol} : p.name = q.name <-> p = q := by
  cases p <;> cases q <;> decide

theorem Cidr.text_inj {block other : Cidr} : block.text = other.text <-> block = other := by
  constructor
  · intro h
    have hread := congrArg Cidr.ofText? h
    rw [Cidr.ofText?_text, Cidr.ofText?_text] at hread
    exact Option.some.inj hread
  · exact congrArg Cidr.text

namespace Rule

/-!
# Fields
-/

def flags : List String :=
  ["-p", "--sport", "--dport", "-i", "-o", "-s", "-d", "-j"]

/-- What a rule has to say under each flag. -/
def fields (r : Rule) : List (String × Option String) :=
  [ ("-p", r.protocol.map Protocol.name),
    ("--sport", r.sourcePort.map Port.text),
    ("--dport", r.destPort.map Port.text),
    ("-i", r.inInterface),
    ("-o", r.outInterface),
    ("-s", r.source.map Cidr.text),
    ("-d", r.dest.map Cidr.text),
    ("-j", some r.effect.text) ]

/-- Fields as a list of arguments, without those that are not set. -/
def written (fields : List (String × Option String)) : List String :=
  fields.flatMap fun field => flag field.1 field.2

/-- What arguments say under each flag. -/
def readBack (args : List String) : List (String × Option String) :=
  flags.map fun name => (name, (options args).lookup name)

theorem args_eq_written (r : Rule) : r.args = written r.fields := by
  simp [args, fields, written, flag, effect]

theorem options_written (fields : List (String × Option String)) :
    options (written fields) =
      fields.filterMap fun field => field.2.map fun value => (field.1, value) := by
  induction fields with
  | nil => rfl
  | cons field rest ih =>
      rcases field with ⟨name, value⟩
      have hwritten : written ((name, value) :: rest) = flag name value ++ written rest := rfl
      rw [hwritten, options_flag_append, ih]
      cases value <;> rfl

theorem lookup_written_of_not_mem {fields : List (String × Option String)} {name : String}
    (h : name ∉ fields.map Prod.fst) : (options (written fields)).lookup name = none := by
  rw [options_written, List.lookup_eq_none_iff]
  rintro ⟨other, value⟩ hoption
  rcases List.mem_filterMap.mp hoption with ⟨field, hfield, hvalue⟩
  rcases Option.map_eq_some_iff.mp hvalue with ⟨_, _, hpair⟩
  have hother : field.1 = other := congrArg Prod.fst hpair
  apply bne_iff_ne.mpr
  intro hname
  apply h
  rw [hname, ← hother]
  exact List.mem_map_of_mem hfield

/-- With distinct flags, each field is found under its own flag, set or not. -/
theorem lookup_written {fields : List (String × Option String)}
    (hdistinct : (fields.map Prod.fst).Nodup) {field : String × Option String}
    (h : field ∈ fields) : (options (written fields)).lookup field.1 = field.2 := by
  induction fields with
  | nil => cases h
  | cons first rest ih =>
      obtain ⟨hfirst, hrest⟩ := List.nodup_cons.mp hdistinct
      rcases first with ⟨name, value⟩
      have hwritten : options (written ((name, value) :: rest)) =
          (value.map fun v => (name, v)).toList ++ options (written rest) :=
        options_flag_append name value (written rest)
      rw [hwritten]
      rcases List.mem_cons.mp h with rfl | hmem
      · cases value with
        | none => exact lookup_written_of_not_mem hfirst
        | some text => simp
      · have hne : field.1 ≠ name := by
          intro hname
          have hflag : field.1 ∈ rest.map Prod.fst := List.mem_map_of_mem hmem
          exact hfirst (hname ▸ hflag)
        cases value with
        | none => exact ih hrest hmem
        | some text =>
            simp only [Option.map_some, Option.toList_some, List.singleton_append,
              List.lookup_cons, beq_false_of_ne hne]
            exact ih hrest hmem

/-- The arguments of a rule are read back as its fields. -/
theorem readBack_args (r : Rule) : readBack r.args = r.fields := by
  have hflags : flags = r.fields.map Prod.fst := rfl
  have hdistinct : (r.fields.map Prod.fst).Nodup := by
    rw [← hflags]
    decide
  have hsame : forall field, field ∈ r.fields ->
      (field.1, (options (written r.fields)).lookup field.1) = field :=
    fun field hfield => Prod.ext rfl (lookup_written hdistinct hfield)
  rw [readBack, args_eq_written, hflags, List.map_map]
  exact (List.map_congr_left hsame).trans (List.map_id r.fields)

/-!
# Agreement
-/

/-- The rules agree in every criterion and in the target, as far as the texts of
ports and targets tell. -/
structure Agrees (r s : Rule) : Prop where
  protocol : r.protocol = s.protocol
  sourcePort : r.sourcePort.map Port.text = s.sourcePort.map Port.text
  destPort : r.destPort.map Port.text = s.destPort.map Port.text
  inInterface : r.inInterface = s.inInterface
  outInterface : r.outInterface = s.outInterface
  source : r.source = s.source
  dest : r.dest = s.dest
  target : (r.target.getD .accept).text = (s.target.getD .accept).text

variable {r s : Rule}

theorem agrees_iff : r.Agrees s <-> r.fields = s.fields := by
  have hname : Function.Injective Protocol.name := fun _ _ => Protocol.name_inj.mp
  have htext : Function.Injective Cidr.text := fun _ _ => Cidr.text_inj.mp
  simp only [fields, List.cons.injEq, Prod.mk.injEq, true_and, Option.some.injEq, and_true,
    (Option.map_injective hname).eq_iff, (Option.map_injective htext).eq_iff]
  constructor
  · rintro ⟨hp, hsport, hdport, hi, ho, hs, hd, hj⟩
    exact ⟨hp, hsport, hdport, hi, ho, hs, hd, hj⟩
  · rintro ⟨hp, hsport, hdport, hi, ho, hs, hd, hj⟩
    exact ⟨hp, hsport, hdport, hi, ho, hs, hd, hj⟩

theorem args_eq_iff : r.args = s.args <-> r.Agrees s := by
  rw [agrees_iff]
  constructor
  · intro h
    rw [← readBack_args r, h, readBack_args]
  · intro h
    rw [args_eq_written, h, ← args_eq_written]

/-!
# Meaning
-/

/-- The packet meets every criterion of the rule.  The filter resolves the text of a
port. -/
structure Matches (services : Services) (p : Packet) (r : Rule) : Prop where
  protocol : forall protocol, r.protocol = some protocol ->
    exists t, p.transport = some t ∧ t.protocol = protocol
  sourcePort : forall port, r.sourcePort = some port -> exists t, p.transport = some t ∧
    services.resolves port.text t.protocol t.sourcePort = true
  destPort : forall port, r.destPort = some port -> exists t, p.transport = some t ∧
    services.resolves port.text t.protocol t.destPort = true
  inInterface : forall name, r.inInterface = some name -> p.inInterface = some name
  outInterface : forall name, r.outInterface = some name -> p.outInterface = some name
  source : forall block, r.source = some block -> block.contains p.source = true
  dest : forall block, r.dest = some block -> block.contains p.dest = true

theorem satisfies_sourcePort (services : Services) (p : Packet) (text : String) :
    p.satisfies services ("--sport", text) = true <->
      exists t, p.transport = some t ∧
        services.resolves text t.protocol t.sourcePort = true := by
  cases htransport : p.transport <;> simp [Packet.satisfies, htransport]

/-- The filter gives the arguments of a rule the meaning of the rule. -/
theorem meets_args_iff (services : Services) (p : Packet) (r : Rule) :
    p.meets services r.args = true <-> r.Matches services p := by
  have hinterface : forall name, (p.satisfies services ("-i", name) = true <->
      p.inInterface = some name) ∧ (p.satisfies services ("-o", name) = true <->
      p.outInterface = some name) := by
    intro name
    simp [Packet.satisfies]
  rw [Packet.meets_args]
  simp only [criteria, List.all_append, Bool.and_eq_true, List.all_eq_true, Option.mem_toList,
    Option.map_eq_some_iff, forall_exists_index, and_imp, forall_apply_eq_imp_iff₂,
    Packet.satisfies_protocol, Packet.satisfies_destPort, satisfies_sourcePort,
    Packet.satisfies_source, Packet.satisfies_dest, hinterface]
  constructor
  · rintro ⟨⟨⟨⟨⟨⟨hp, hsport⟩, hdport⟩, hi⟩, ho⟩, hs⟩, hd⟩
    exact ⟨hp, hsport, hdport, hi, ho, hs, hd⟩
  · rintro ⟨hp, hsport, hdport, hi, ho, hs, hd⟩
    exact ⟨⟨⟨⟨⟨⟨hp, hsport⟩, hdport⟩, hi⟩, ho⟩, hs⟩, hd⟩

end Rule

namespace Table

theorem length_place (position : Position) (args : List String) (rules : List (List String)) :
    (place position args rules).length = rules.length + 1 := by
  cases position with
  | append => simp [place]
  | insert n => exact List.length_insertIdx_of_le_length (Nat.min_le_right _ _) args

/-- A rule is taken to be there exactly if its arguments are. -/
theorem ensureRule_eq_self_iff {t : Table} {chain : String} {position : Position}
    {args : List String} : t.ensureRule chain position args = t <-> args ∈ t.rules chain := by
  unfold ensureRule
  by_cases h : args ∈ t.rules chain
  · simp [h]
  · simp only [List.contains_iff_mem, h, if_false, iff_false]
    intro hsame
    have hrules : rules (t.insert chain (place position args (t.rules chain))) chain =
        place position args (t.rules chain) := by
      simp [rules]
    rw [hsame] at hrules
    have hlength := congrArg List.length hrules
    rw [length_place] at hlength
    omega

end Table

namespace Rule

/-- Two rules are written alike if and only if they agree, whatever texts are their
values.  So a check for a rule asks for the rules that agree with it, a rule is left out
because it is there already if and only if one that agrees with it is there, and rules
that agree match the same packets and send them to the same target. -/
theorem args_decodable (r s : Rule) :
    (r.args = s.args <-> r.Agrees s) ∧
    (forall table chain, Iptables.checkArgs table chain r.args =
      Iptables.checkArgs table chain s.args <-> r.Agrees s) ∧
    (forall (t : Table) (chain : String) (position : Position) (rules : List Rule),
      t.rules chain = rules.map args ->
      (t.ensureRule chain position r.args = t <-> exists x, x ∈ rules ∧ r.Agrees x)) ∧
    (r.Agrees s -> (r.target.getD .accept).text = (s.target.getD .accept).text ∧
      forall services p, r.Matches services p <-> s.Matches services p) := by
  refine ⟨args_eq_iff, ?_, ?_, ?_⟩
  · intro table chain
    rw [Iptables.checkArgs, Iptables.checkArgs, List.append_cancel_left_eq, args_eq_iff]
  · intro t chain position rules hrules
    rw [Table.ensureRule_eq_self_iff, hrules, List.mem_map]
    constructor
    · rintro ⟨x, hx, hargs⟩
      exact ⟨x, hx, args_eq_iff.mp hargs.symm⟩
    · rintro ⟨x, hx, hagrees⟩
      exact ⟨x, hx, (args_eq_iff.mpr hagrees).symm⟩
  · intro hagrees
    refine ⟨hagrees.target, ?_⟩
    intro services p
    rw [← meets_args_iff, ← meets_args_iff, args_eq_iff.mpr hagrees]

/-- An interface that is named like a flag is not taken for one. -/
example :
    ({ inInterface := some "-o", target := some (.jump "-d") } : Rule).args ≠
      ({ outInterface := some "-j", target := some (.jump "-d") } : Rule).args := by
  decide

end Rule

end PodIsolation
