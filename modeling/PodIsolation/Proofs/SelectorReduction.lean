import PodIsolation.Proofs.SelectorCoverage

/-!
# Reduction of label selectors

## What a selector reduces to

Requirements are taken one after the other, each on top of the pairs found so far,
and the first that does not ask for exactly one value ends the reduction.  So what
is found under a key is what the last requirement on that key asks for, or else the
pair that was there at first, and the error is that of the first requirement that
cannot be met by one pair, whatever comes after it.
-/

namespace PodIsolation

namespace Requirement

/-- The requirement is met by this value under its key and by nothing else. -/
def AsksFor (r : Requirement) (value : String) : Prop :=
  r.operator = .oneOf ∧ forall other, other ∈ r.values.items <-> other = value

/-- Why a requirement that does not ask for exactly one value cannot be reduced. -/
def offence (r : Requirement) : SelectorError :=
  if r.operator = .oneOf then .notSingleValued .oneOf else .unsupported r.operator

/-!
# Single requirements
-/

variable {r : Requirement} {value other : String}

theorem AsksFor.unique (h : r.AsksFor value) (h' : r.AsksFor other) : value = other :=
  (h'.right value).mp ((h.right value).mpr rfl)

/-- A set without repetition has one member only if its list is that member. -/
theorem AsksFor.items (h : r.AsksFor value) : r.values.items = [value] := by
  have hmember := h.right
  have hsorted := r.values.sorted
  cases hitems : r.values.items with
  | nil =>
      rw [hitems] at hmember
      cases (hmember value).mpr rfl
  | cons first rest =>
      rw [hitems] at hmember hsorted
      have hfirst : first = value := (hmember first).mp List.mem_cons_self
      cases rest with
      | nil => rw [hfirst]
      | cons second rest =>
          have hsecond : second = value :=
            (hmember second).mp (List.mem_cons_of_mem first List.mem_cons_self)
          have hlt : first < second := (List.pairwise_cons.mp hsorted).left second List.mem_cons_self
          rw [hfirst, hsecond] at hlt
          exact absurd hlt (String.lt_irrefl value)

theorem singleValue_eq_ok_iff : r.singleValue = .ok value <-> r.AsksFor value := by
  constructor
  · intro h
    rcases Selector.singleValue_eq_ok h with ⟨hoperator, hitems⟩
    refine ⟨hoperator, ?_⟩
    intro other
    rw [hitems, List.mem_singleton]
  · intro h
    simp [singleValue, h.left, h.items]

theorem singleValue_eq_error (h : forall value, ¬ r.AsksFor value) :
    r.singleValue = .error r.offence := by
  cases hsingle : r.singleValue with
  | ok value => exact absurd (singleValue_eq_ok_iff.mp hsingle) (h value)
  | error e =>
      unfold singleValue at hsingle
      split at hsingle
      · cases hsingle
      · rename_i hoperator _
        cases hsingle
        rw [offence, if_pos hoperator]
      · rename_i hother _
        cases hsingle
        rw [offence, if_neg hother]

end Requirement

namespace Selector

/-!
# Pairs
-/

/-- What is found under the key is what the last requirement on the key asks for, or
what was there before if no requirement is on the key. -/
def Assigns (start : Labels) (rs : List Requirement) (key value : String) : Prop :=
  (exists before r after, rs = before ++ r :: after ∧ r.key = key ∧ r.AsksFor value ∧
    forall x, x ∈ after -> x.key ≠ key) ∨
  ((forall x, x ∈ rs -> x.key ≠ key) ∧ start.get? key = some value)

variable {start labels : Labels} {r : Requirement} {rs rest : List Requirement}
  {key value single : String}

theorem assigns_nil : Assigns start [] key value <-> start.get? key = some value := by
  simp [Assigns]

/-- The first requirement acts as if its pair had been there before the others. -/
theorem assigns_cons (h : r.AsksFor single) :
    Assigns start (r :: rest) key value <->
      Assigns (start.insert r.key single) rest key value := by
  constructor
  · rintro (⟨before, x, after, hsplit, hkey, hasks, hlast⟩ | ⟨hnone, hstart⟩)
    · cases before with
      | nil =>
          cases hsplit
          refine Or.inr ⟨hlast, ?_⟩
          rw [SortedMap.get?_insert, if_pos hkey.symm, h.unique hasks]
      | cons y before =>
          cases hsplit
          exact Or.inl ⟨before, x, after, rfl, hkey, hasks, hlast⟩
    · obtain ⟨hfirst, hrest⟩ := List.forall_mem_cons.mp hnone
      refine Or.inr ⟨hrest, ?_⟩
      rw [SortedMap.get?_insert, if_neg (Ne.symm hfirst), hstart]
  · rintro (⟨before, x, after, rfl, hkey, hasks, hlast⟩ | ⟨hnone, hstart⟩)
    · exact Or.inl ⟨r :: before, x, after, rfl, hkey, hasks, hlast⟩
    · rw [SortedMap.get?_insert] at hstart
      split at hstart
      · rename_i hkey
        cases hstart
        exact Or.inl ⟨[], r, rest, rfl, hkey.symm, h, hnone⟩
      · rename_i hkey
        exact Or.inr ⟨List.forall_mem_cons.mpr ⟨Ne.symm hkey, hnone⟩, hstart⟩

/-!
# Lists of requirements
-/

theorem get?_reduceInto (h : reduceInto start rs = .ok labels) :
    labels.get? key = some value <-> Assigns start rs key value := by
  induction rs generalizing start with
  | nil =>
      cases h
      exact assigns_nil.symm
  | cons r rest ih =>
      rcases reduceInto_cons_eq_ok.mp h with ⟨single, hsingle, hrest⟩
      rw [assigns_cons (Requirement.singleValue_eq_ok_iff.mp hsingle)]
      exact ih hrest

theorem exists_reduceInto_iff :
    (exists labels, reduceInto start rs = .ok labels) <->
      forall r, r ∈ rs -> exists value, r.AsksFor value := by
  induction rs generalizing start with
  | nil => simp [reduceInto]
  | cons r rest ih =>
      simp only [reduceInto_cons_eq_ok, Requirement.singleValue_eq_ok_iff, List.forall_mem_cons]
      constructor
      · rintro ⟨labels, single, hsingle, hrest⟩
        exact ⟨⟨single, hsingle⟩, ih.mp ⟨labels, hrest⟩⟩
      · rintro ⟨⟨single, hsingle⟩, hrest⟩
        rcases ih.mpr hrest with ⟨labels, hlabels⟩
        exact ⟨labels, single, hsingle, hlabels⟩

theorem reduceInto_append_eq_error {before after : List Requirement}
    (hbefore : forall x, x ∈ before -> exists value, x.AsksFor value)
    (hr : forall value, ¬ r.AsksFor value) :
    reduceInto start (before ++ r :: after) = .error r.offence := by
  induction before generalizing start with
  | nil => simp [reduceInto, Requirement.singleValue_eq_error hr]
  | cons x before ih =>
      obtain ⟨⟨single, hsingle⟩, hrest⟩ := List.forall_mem_cons.mp hbefore
      rw [List.cons_append, reduceInto, Requirement.singleValue_eq_ok_iff.mpr hsingle]
      exact ih hrest

/-- If some requirement does not ask for exactly one value, there is a first one. -/
theorem exists_first_offence (h : ¬ forall r, r ∈ rs -> exists value, r.AsksFor value) :
    exists before r after, rs = before ++ r :: after ∧
      (forall x, x ∈ before -> exists value, x.AsksFor value) ∧
      forall value, ¬ r.AsksFor value := by
  induction rs with
  | nil => simp at h
  | cons r rest ih =>
      by_cases hr : exists value, r.AsksFor value
      · have hrest : ¬ forall x, x ∈ rest -> exists value, x.AsksFor value :=
          fun hall => h (List.forall_mem_cons.mpr ⟨hr, hall⟩)
        rcases ih hrest with ⟨before, x, after, rfl, hbefore, hx⟩
        exact ⟨r :: before, x, after, rfl, List.forall_mem_cons.mpr ⟨hr, hbefore⟩, hx⟩
      · exact ⟨[], r, rest, rfl, by simp, not_exists.mp hr⟩

/-- A selector reduces to a label map if and only if every requirement asks for exactly
one value, and then to the one map that has under each key what the last requirement on
the key asks for, or else the pair of the selector.  Otherwise the error is that of the
first requirement that does not ask for exactly one value, whatever stands after it. -/
theorem reduce_exact (s : Selector) :
    ((exists labels, s.reduce = .ok labels) <->
      forall r, r ∈ s.requirements.getD [] -> exists value, r.AsksFor value) ∧
    (forall labels, s.reduce = .ok labels <->
      (forall r, r ∈ s.requirements.getD [] -> exists value, r.AsksFor value) ∧
      forall key value, labels.get? key = some value <->
        Assigns (s.labels.getD ∅) (s.requirements.getD []) key value) ∧
    (forall e, s.reduce = .error e <->
      exists before r after, s.requirements.getD [] = before ++ r :: after ∧
        (forall x, x ∈ before -> exists value, x.AsksFor value) ∧
        (forall value, ¬ r.AsksFor value) ∧ e = r.offence) := by
  refine ⟨exists_reduceInto_iff, ?_, ?_⟩
  · intro labels
    constructor
    · intro h
      exact ⟨exists_reduceInto_iff.mp ⟨labels, h⟩, fun key value => get?_reduceInto h⟩
    · rintro ⟨hall, hget⟩
      rcases exists_reduceInto_iff.mpr hall with ⟨found, hfound⟩
      have hsame : found = labels := by
        apply SortedMap.ext
        intro key
        apply Option.ext
        intro value
        rw [get?_reduceInto hfound, hget]
      rw [← hsame]
      exact hfound
  · intro e
    constructor
    · intro h
      have hsome : ¬ forall r, r ∈ s.requirements.getD [] -> exists value, r.AsksFor value := by
        intro hall
        rcases exists_reduceInto_iff.mpr hall with ⟨labels, hlabels⟩
        cases h.symm.trans hlabels
      rcases exists_first_offence hsome with ⟨before, r, after, hsplit, hbefore, hr⟩
      refine ⟨before, r, after, hsplit, hbefore, hr, ?_⟩
      rw [reduce, hsplit, reduceInto_append_eq_error hbefore hr] at h
      cases h
      rfl
    · rintro ⟨before, r, after, hsplit, hbefore, hr, rfl⟩
      rw [reduce, hsplit, reduceInto_append_eq_error hbefore hr]

/-- The last requirement on a key counts, and the key of the map that no requirement is
on is kept. -/
example :
    let asks : String -> String -> Requirement := fun key value =>
      { key, operator := .oneOf, values := .ofList [value, value] }
    let s : Selector :=
      { labels := some (.ofList [("tier", "web"), ("app", "shop")]),
        requirements := some [asks "tier" "db", asks "zone" "a", asks "tier" "cache"] }
    s.reduce.toOption =
      some (.ofList [("app", "shop"), ("tier", "cache"), ("zone", "a")]) := by
  decide +kernel

end Selector

end PodIsolation
