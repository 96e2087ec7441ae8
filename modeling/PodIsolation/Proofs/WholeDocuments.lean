import PodIsolation.Json.Reader

/-!
# Documents that are taken in as a whole

## Reading any document

A reader that takes any document yields one whose objects do not repeat a name,
and that is no deeper than the reader may go.  Such documents, and only such,
are read back as they are.
-/

namespace PodIsolation

namespace Json

/-- A reader that may enter fewer levels than the given number takes the document
as it is. -/
inductive Fits : Nat -> Json -> Prop where
  | null {levels : Nat} : Fits levels .null
  | bool {levels : Nat} (b : Bool) : Fits levels (.bool b)
  | int {levels : Nat} (n : Int) : Fits levels (.int n)
  | real {levels : Nat} (x : Binary64) : Fits levels (.real x)
  | string {levels : Nat} (s : String) : Fits levels (.string s)
  | list {levels : Nat} {items : List Json} : 1 < levels ->
      (forall item, item ∈ items -> Fits (levels - 1) item) -> Fits levels (.list items)
  | object {levels : Nat} {members : List (String × Json)} : 1 < levels ->
      (members.map Prod.fst).Nodup ->
      (forall member, member ∈ members -> Fits (levels - 1) member.2) ->
      Fits levels (.object members)

namespace Draft

/-!
# Members that are set
-/

theorem setMember_of_new {name : String} (value : Json) {seen : List (String × Json)}
    (h : name ∉ seen.map Prod.fst) : setMember name value seen = seen ++ [(name, value)] := by
  induction seen with
  | nil => rfl
  | cons first rest ih =>
      have hne : first.fst ≠ name := fun heq => h (heq ▸ List.mem_cons_self)
      have hrest : name ∉ rest.map Prod.fst := fun hmem => h (List.mem_cons_of_mem _ hmem)
      rw [setMember, if_neg hne, ih hrest, List.cons_append]

theorem mem_setMember {name : String} {value : Json} {seen : List (String × Json)}
    {member : String × Json} (h : member ∈ setMember name value seen) :
    member = (name, value) ∨ member ∈ seen := by
  induction seen with
  | nil => exact Or.inl (List.mem_singleton.mp h)
  | cons first rest ih =>
      rw [setMember] at h
      split at h
      next =>
        rcases List.mem_cons.mp h with rfl | h
        · exact Or.inl rfl
        · exact Or.inr (List.mem_cons_of_mem first h)
      next =>
        rcases List.mem_cons.mp h with rfl | h
        · exact Or.inr List.mem_cons_self
        · exact (ih h).imp_right (List.mem_cons_of_mem first)

/-- A member that is set again keeps its place. -/
theorem names_setMember (name : String) (value : Json) (seen : List (String × Json)) :
    (setMember name value seen).map Prod.fst =
      if name ∈ seen.map Prod.fst then seen.map Prod.fst else seen.map Prod.fst ++ [name] := by
  by_cases h : name ∈ seen.map Prod.fst
  · rw [if_pos h]
    induction seen with
    | nil => cases h
    | cons first rest ih =>
        rw [setMember]
        by_cases heq : first.fst = name
        · rw [if_pos heq, List.map_cons, List.map_cons, heq]
        · have hrest : name ∈ rest.map Prod.fst :=
            (List.mem_cons.mp h).resolve_left fun h => heq h.symm
          rw [if_neg heq, List.map_cons, List.map_cons, ih hrest]
  · rw [if_neg h, setMember_of_new value h, List.map_append]
    rfl

theorem nodup_setMember (name : String) (value : Json) {seen : List (String × Json)}
    (h : (seen.map Prod.fst).Nodup) : ((setMember name value seen).map Prod.fst).Nodup := by
  rw [names_setMember]
  split
  next => exact h
  next hnew =>
    rw [List.nodup_append]
    refine ⟨h, List.pairwise_singleton _ name, ?_⟩
    rintro other hother _ hname rfl
    exact hnew (List.mem_singleton.mp hname ▸ hother)

/-!
# What a reader of any document takes
-/

mutual

theorem fits_toJson (levels : Nat) (d : Draft) (h : readFault? levels d = none) :
    Fits levels (toJson d) := by
  cases d with
  | null => exact .null
  | bool b => exact .bool b
  | number n =>
      cases n with
      | whole n => exact .int n
      | real x => exact .real x
      | tooLarge => cases h
  | string text =>
      cases text with
      | none => cases h
      | some s => exact .string s
  | list items ending =>
      rw [readFault?] at h
      split at h
      next => cases h
      next hlevels => exact .list (Nat.lt_of_not_le hlevels) (fits_toItems _ items ending h)
  | object members ending =>
      rw [readFault?] at h
      split at h
      next => cases h
      next hlevels =>
        have hmembers := fits_toMembers (levels - 1) members ending [] h List.nodup_nil
          (fun _ h => nomatch h)
        exact .object (Nat.lt_of_not_le hlevels) hmembers.left hmembers.right
  | broken b => cases h

theorem fits_toItems (levels : Nat) (items : List Draft) (ending : Option TextFault)
    (h : readItems? levels items ending = none) :
    forall item, item ∈ toItems items -> Fits levels item := by
  cases items with
  | nil =>
      intro item hitem
      cases hitem
  | cons first rest =>
      rw [readItems?] at h
      split at h
      next => cases h
      next hfirst =>
        intro item hitem
        rcases List.mem_cons.mp hitem with rfl | hitem
        · exact fits_toJson levels first hfirst
        · exact fits_toItems levels rest ending h item hitem

theorem fits_toMembers (levels : Nat) (members : List (Option String × Draft))
    (ending : Option TextFault) (seen : List (String × Json))
    (h : readMembers? levels members ending = none) (hnodup : (seen.map Prod.fst).Nodup)
    (hseen : forall member, member ∈ seen -> Fits levels member.2) :
    ((toMembers members seen).map Prod.fst).Nodup ∧
      forall member, member ∈ toMembers members seen -> Fits levels member.2 := by
  cases members with
  | nil => exact ⟨hnodup, hseen⟩
  | cons first rest =>
      rcases first with ⟨name, value⟩
      cases name with
      | none =>
          cases value <;> cases h
      | some name =>
          rw [readMembers?] at h
          split at h
          next => cases h
          next hvalue =>
            have hfits := fits_toJson levels value hvalue
            rw [toMembers]
            apply fits_toMembers levels rest ending _ h (nodup_setMember _ _ hnodup)
            intro member hmember
            rcases mem_setMember hmember with rfl | hmember
            · exact hfits
            · exact hseen member hmember

end

theorem toJson_ne_null {levels : Nat} {d : Draft} (hd : d ≠ .null)
    (h : readFault? levels d = none) : toJson d ≠ .null := by
  cases d with
  | null => exact absurd rfl hd
  | number n =>
      cases n with
      | tooLarge => cases h
      | whole n | real x => exact Json.noConfusion
  | broken b => cases h
  | bool b | string text | list items ending | object members ending =>
      rw [toJson]
      exact Json.noConfusion

/-!
# Documents that are read back
-/

theorem readItems?_ofItems {levels : Nat} {items : List Json}
    (h : forall item, item ∈ items -> readFault? levels (ofJson item) = none) :
    readItems? levels (ofItems items) none = none := by
  induction items with
  | nil => rfl
  | cons first rest ih =>
      rw [ofItems, readItems?, h first List.mem_cons_self]
      exact ih fun item hitem => h item (List.mem_cons_of_mem first hitem)

theorem readMembers?_ofMembers {levels : Nat} {members : List (String × Json)}
    (h : forall member, member ∈ members -> readFault? levels (ofJson member.2) = none) :
    readMembers? levels (ofMembers members) none = none := by
  induction members with
  | nil => rfl
  | cons first rest ih =>
      rw [ofMembers, readMembers?, h first List.mem_cons_self]
      exact ih fun member hmember => h member (List.mem_cons_of_mem first hmember)

theorem readFault?_ofJson {levels : Nat} {j : Json} (h : Fits levels j) :
    readFault? levels (ofJson j) = none := by
  induction h with
  | list hlevels _ ih =>
      rw [ofJson, readFault?, if_neg (Nat.not_le_of_lt hlevels)]
      exact readItems?_ofItems ih
  | object hlevels _ _ ih =>
      rw [ofJson, readFault?, if_neg (Nat.not_le_of_lt hlevels)]
      exact readMembers?_ofMembers ih
  | _ => rfl

theorem toItems_ofItems {items : List Json}
    (h : forall item, item ∈ items -> toJson (ofJson item) = item) :
    toItems (ofItems items) = items := by
  induction items with
  | nil => rfl
  | cons first rest ih =>
      rw [ofItems, toItems, h first List.mem_cons_self,
        ih fun item hitem => h item (List.mem_cons_of_mem first hitem)]

/-- Members with distinct names keep their order. -/
theorem toMembers_ofMembers {members seen : List (String × Json)}
    (hnodup : ((seen ++ members).map Prod.fst).Nodup)
    (h : forall member, member ∈ members -> toJson (ofJson member.2) = member.2) :
    toMembers (ofMembers members) seen = seen ++ members := by
  induction members generalizing seen with
  | nil => exact (List.append_nil seen).symm
  | cons first rest ih =>
      have hnew : first.fst ∉ seen.map Prod.fst := by
        rw [List.map_append, List.nodup_append] at hnodup
        intro hmem
        exact hnodup.right.right first.fst hmem first.fst List.mem_cons_self rfl
      have happend : seen ++ first :: rest = (seen ++ [first]) ++ rest := by
        rw [List.append_assoc, List.singleton_append]
      rw [ofMembers, toMembers, h first List.mem_cons_self, Option.getD_some,
        setMember_of_new first.snd hnew, happend]
      rw [happend] at hnodup
      exact ih hnodup fun member hmember => h member (List.mem_cons_of_mem first hmember)

theorem toJson_ofJson {levels : Nat} {j : Json} (h : Fits levels j) : toJson (ofJson j) = j := by
  induction h with
  | list _ _ ih => rw [ofJson, toJson, toItems_ofItems ih]
  | @object _ members _ hnodup _ ih =>
      have hmembers : toMembers (ofMembers members) [] = [] ++ members :=
        toMembers_ofMembers hnodup ih
      rw [ofJson, toJson, hmembers, List.nil_append]
  | _ => rfl

end Draft

namespace Reader

variable {p : Place} {d : Draft} {j : Json}

theorem any_eq_ok (hheld : p.held = false) (h : any p d = .ok j) :
    d.readFault? p.levels = none ∧ d.toJson = j := by
  unfold any at h
  rw [hheld] at h
  split at h
  next => cases h
  next hfault =>
    cases h
    exact ⟨hfault, rfl⟩

theorem any_ofJson (h : j.Fits p.levels) : any p (.ofJson j) = .ok j := by
  unfold any
  rw [Draft.readFault?_ofJson h, Draft.toJson_ofJson h]
  cases p.held <;> rfl

end Reader

end Json

end PodIsolation
