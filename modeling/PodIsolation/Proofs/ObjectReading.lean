import PodIsolation.Proofs.RecordReading

/-!
# Reading objects

## Members that are left out

The reader of an object takes each member in turn, wherever it stands, and a
member that is left out leaves the state as it was.  What holds of the state
without members and is kept by every declared member holds of every value that
is read.
-/

namespace PodIsolation

namespace Json

namespace Record

variable {S : Type} {fields : List (Field S)} {once : Bool} {p : Place}

theorem readMembers_append (other : Others S) (earlier later : List (Option String × Draft))
    (met : List String) (s : S) :
    readMembers fields once other p (earlier ++ later) met s =
      (readMembers fields once other p earlier met s).bind fun (met, s) =>
        readMembers fields once other p later met s := by
  induction earlier generalizing met s with
  | nil => rfl
  | cons member rest ih =>
      rcases member with ⟨name, value⟩
      cases name with
      | none => rfl
      | some name =>
          rw [List.cons_append, readMembers, readMembers]
          cases fields.find? fun f => f.name = name with
          | none =>
              cases other p name value s with
              | error fault => rfl
              | ok s' => exact ih met s'
          | some f =>
              dsimp only
              cases once && met.contains name with
              | true => rfl
              | false =>
                  cases f.read p value s with
                  | error fault => rfl
                  | ok s' => exact ih (name :: met) s'

/-- The members turn the state into another one. -/
def Takes (fields : List (Field S)) (p : Place) (members : List (String × Json)) (s s' : S) :
    Prop :=
  forall met, exists met',
    readMembers fields false .skipped p (Draft.ofMembers members) met s = .ok (met', s')

theorem Takes.nil (s : S) : Takes fields p [] s s :=
  fun met => ⟨met, rfl⟩

theorem Takes.first {members : List (String × Json)} {s s' : S}
    (h : Takes fields p ([] ++ members) s s') : Takes fields p members s s' :=
  h

theorem ofMembers_append (earlier later : List (String × Json)) :
    Draft.ofMembers (earlier ++ later) = Draft.ofMembers earlier ++ Draft.ofMembers later := by
  simp only [Draft.ofMembers_eq_map, List.map_append]

theorem Takes.append {earlier later : List (String × Json)} {s s' s'' : S}
    (h : Takes fields p earlier s s') (h' : Takes fields p later s' s'') :
    Takes fields p (earlier ++ later) s s'' := by
  intro met
  rcases h met with ⟨met', hearlier⟩
  rcases h' met' with ⟨met'', hlater⟩
  refine ⟨met'', ?_⟩
  rw [ofMembers_append, readMembers_append, hearlier]
  exact hlater

/-- A member that is always written, before the members after it. -/
theorem Takes.given {name : String} {r : Reader T} {set : Option T -> S -> S}
    (hfind : fields.find? (fun f => f.name = name) = some (.optional name r set))
    {encode : T -> Json} {a : T} {rest : List (String × Json)} {s s' : S}
    (hencode : encode a ≠ .null) (hread : r.ReadsBack p encode a)
    (h : Takes fields p rest (set (some a) s) s') :
    Takes fields p ((name, encode a) :: rest) s s' := by
  intro met
  rcases h (name :: met) with ⟨met', hrest⟩
  have hfield : (Field.optional name r set).read p (.ofJson (encode a)) s =
      .ok (set (some a) s) := by
    refine Field.optional_readsBack (?_ : forall b, some a = some b -> encode b ≠ .null) ?_ set s
    · rintro b ⟨⟩
      exact hencode
    · rintro b ⟨⟩
      exact hread
  refine ⟨met', ?_⟩
  simp only [Draft.ofMembers, readMembers, hfind, Bool.false_and, Bool.false_eq_true, if_false]
  rw [hfield]
  exact hrest

/-- A member that is written if it is set, after the members before it have been
taken from a state where it is not set. -/
theorem Takes.member? {name : String} {r : Reader T} {set : Option T -> S -> S}
    (hfind : fields.find? (fun f => f.name = name) = some (.optional name r set))
    {encode : T -> Json} {v : Option T} {members : List (String × Json)} {s s' : S}
    (h : Takes fields p members s (set none s'))
    (hencode : forall a, v = some a -> encode a ≠ .null)
    (hread : forall a, v = some a -> r.ReadsBack p encode a)
    (hset : set v (set none s') = s') (hunset : set none (set none s') = set none s') :
    Takes fields p (members ++ Json.member? name encode v) s s' := by
  refine h.append ?_
  cases v with
  | none =>
      have hs : set none s' = s' := hunset.symm.trans hset
      rw [hs]
      exact .nil s'
  | some a =>
      refine Takes.given hfind (hencode a rfl) (hread a rfl) ?_
      rw [hset]
      exact .nil s'

end Record

namespace Reader

variable {S : Type} {fields : List (Field S)} {p : Place}

theorem object_readsBack {empty value : S} {encode : S -> Json} {members : List (String × Json)}
    (hencode : encode value = .object members)
    (hoptional : fields.all Field.mayBeUnnamed = true)
    (h : Record.Takes fields p.inner members empty value) :
    (object empty fields).ReadsBack p encode value := by
  rcases h [] with ⟨met, hmembers⟩
  have hcomplete : Record.isComplete fields met = true := by
    unfold Record.isComplete
    rw [List.all_eq_true] at hoptional ⊢
    intro f hf
    rw [hoptional f hf, Bool.true_or]
  unfold ReadsBack
  rw [hencode, Draft.ofJson, object, Record.readObject, hmembers]
  change (if Record.isComplete fields met then _ else _) = _
  rw [if_pos hcomplete]

end Reader

/-!
# What readers keep
-/

theorem exists_of_bind_eq_ok {x : Except TextFault A} {f : A -> Except TextFault B} {b : B}
    (h : (x >>= f) = .ok b) : exists a, x = .ok a ∧ f a = .ok b := by
  cases x with
  | error fault => cases h
  | ok a => exact ⟨a, rfl, h⟩

theorem eq_of_atEnd_eq_ok {ending : Option TextFault} {a b : A} (h : atEnd ending a = .ok b) :
    a = b := by
  cases ending with
  | some fault => cases h
  | none =>
      cases h
      rfl

namespace Field

variable {S : Type} {P : S -> Prop} {p : Place} {name : String} {r : Reader T}

/-- Taking the member in keeps what holds of the state. -/
def Keeps (P : S -> Prop) (p : Place) (f : Field S) : Prop :=
  forall d s s', P s -> f.read p d s = .ok s' -> P s'

theorem reading_keeps {set : T -> S -> S} (h : forall d v s, r p d = .ok v -> P s -> P (set v s))
    {d : Draft} {s s' : S} (hs : P s) (hread : reading r set p d s = .ok s') : P s' := by
  unfold reading at hread
  cases hvalue : r p d with
  | error fault =>
      rw [hvalue] at hread
      cases hread
  | ok v =>
      rw [hvalue] at hread
      cases hread
      exact h d v s hvalue hs

theorem required_keeps {set : T -> S -> S}
    (h : forall d v s, r p d = .ok v -> P s -> P (set v s)) : (required name r set).Keeps P p :=
  fun _ _ _ => reading_keeps h

theorem optional_keeps {set : Option T -> S -> S}
    (h : forall d v s, r.nullable p d = .ok v -> P s -> P (set v s)) :
    (optional name r set).Keeps P p :=
  fun _ _ _ => reading_keeps h

/-- A member that does not touch the part of the state that matters. -/
theorem optional_keeps_of_eq {part : S -> A} (hpart : forall s s', part s' = part s -> P s -> P s')
    {set : Option T -> S -> S} (hset : forall v s, part (set v s) = part s) :
    (optional name r set).Keeps P p :=
  optional_keeps fun _ v s _ hs => hpart s (set v s) (hset v s) hs

end Field

namespace Record

variable {S : Type} {fields : List (Field S)} {P : S -> Prop} {p : Place}

theorem readMembers_keeps {once : Bool} {members : List (Option String × Draft)}
    {met met' : List String} {s s' : S} (hfields : forall f, f ∈ fields -> f.Keeps P p)
    (hs : P s) (h : readMembers fields once .skipped p members met s = .ok (met', s')) :
    P s' := by
  induction members generalizing met s with
  | nil =>
      cases h
      exact hs
  | cons member rest ih =>
      rcases member with ⟨name, value⟩
      cases name with
      | none => cases h
      | some name =>
          rw [readMembers] at h
          split at h
          next =>
            rcases exists_of_bind_eq_ok h with ⟨s'', hskip, hrest⟩
            rw [← eq_of_atEnd_eq_ok hskip] at hrest
            exact ih hs hrest
          next f hfind =>
            split at h
            next => cases h
            next =>
              rcases exists_of_bind_eq_ok h with ⟨s'', hread, hrest⟩
              exact ih (hfields f (List.mem_of_find?_eq_some hfind) value s s'' hs hread) hrest

theorem readItems_keeps {ending : Option TextFault} {rest : List (Field S)} {items : List Draft}
    {s s' : S} (hfields : forall f, f ∈ rest -> f.Keeps P p) (hs : P s)
    (h : readItems p ending rest items s = .ok s') : P s' := by
  induction rest generalizing items s with
  | nil =>
      cases items with
      | nil => exact eq_of_atEnd_eq_ok h ▸ hs
      | cons item items => cases h
  | cons f rest ih =>
      have hlater : forall g, g ∈ rest -> g.Keeps P p :=
        fun g hg => hfields g (List.mem_cons_of_mem f hg)
      cases items with
      | nil =>
          rcases exists_of_bind_eq_ok h with ⟨s'', hend, hcut⟩
          rw [← eq_of_atEnd_eq_ok hend] at hcut
          split at hcut
          next => exact ih hlater hs hcut
          next => cases hcut
      | cons item items =>
          rcases exists_of_bind_eq_ok h with ⟨s'', hread, hrest⟩
          exact ih hlater (hfields f List.mem_cons_self item s s'' hs hread) hrest

theorem readObject_keeps {once : Bool} {empty value : S} {members : List (Option String × Draft)}
    {ending : Option TextFault} (hempty : P empty)
    (hfields : forall f, f ∈ fields -> f.Keeps P p.inner)
    (h : readObject fields once .skipped empty p members ending = .ok value) : P value := by
  rcases exists_of_bind_eq_ok h with ⟨⟨met, s⟩, hmembers, hend⟩
  rcases exists_of_bind_eq_ok hend with ⟨s', hs', hcomplete⟩
  have hs := readMembers_keeps hfields hempty hmembers
  split at hcomplete
  next =>
    cases hcomplete
    exact eq_of_atEnd_eq_ok hs' ▸ hs
  next => cases hcomplete

end Record

namespace Reader

variable {S : Type} {fields : List (Field S)} {P : S -> Prop} {p : Place}

theorem object_keeps {empty value : S} {d : Draft} (hempty : P empty)
    (hfields : forall f, f ∈ fields -> f.Keeps P p.inner)
    (h : object empty fields p d = .ok value) : P value := by
  cases d with
  | object members ending => exact Record.readObject_keeps hempty hfields h
  | _ => cases h

theorem record_keeps {empty value : S} {d : Draft} (hempty : P empty)
    (hfields : forall f, f ∈ fields -> f.Keeps P p.inner)
    (h : record empty fields p d = .ok value) : P value := by
  cases d with
  | object members ending => exact Record.readObject_keeps hempty hfields h
  | list items ending => exact Record.readItems_keeps hfields hempty h
  | _ => cases h

theorem items_keep {r : Reader T} {Q : T -> Prop} (hitem : forall d v, r p d = .ok v -> Q v)
    {drafts : List Draft} {values : List T} (h : items r p drafts = .ok values) :
    forall v, v ∈ values -> Q v := by
  induction drafts generalizing values with
  | nil =>
      cases h
      intro v hv
      cases hv
  | cons draft rest ih =>
      rcases exists_of_bind_eq_ok h with ⟨first, hfirst, hlater⟩
      rcases exists_of_bind_eq_ok hlater with ⟨others, hothers, hvalues⟩
      cases hvalues
      intro v hv
      rcases List.mem_cons.mp hv with rfl | hv
      · exact hitem draft v hfirst
      · exact ih hothers v hv

theorem list_keeps {r : Reader T} {Q : T -> Prop} (hitem : forall d v, r p.inner d = .ok v -> Q v)
    {d : Draft} {values : List T} (h : list r p d = .ok values) : forall v, v ∈ values -> Q v := by
  cases d with
  | list drafts ending =>
      rcases exists_of_bind_eq_ok h with ⟨read, hread, hend⟩
      rw [← eq_of_atEnd_eq_ok hend]
      exact items_keep hitem hread
  | _ => cases h

/-- A value that may be null is read where the draft is not null. -/
theorem nullable_eq_some {r : Reader T} {d : Draft} {v : T} (h : r.nullable p d = .ok (some v)) :
    d ≠ .null ∧ r p d = .ok v := by
  have hread : forall x : Except TextFault T, x.map some = .ok (some v) -> x = .ok v := by
    intro x hx
    cases x with
    | error fault => cases hx
    | ok a =>
        cases hx
        rfl
  cases d with
  | null => cases h
  | _ => exact ⟨Draft.noConfusion, hread _ h⟩

end Reader

end Json

end PodIsolation
