import PodIsolation.Json.Reader
import PodIsolation.Proofs.MapLookup

/-!
# Reading records

## Named and listed members

A record is read from an object or from a list.  With all declared members, in
the order of their declaration, both come to the same, whatever the members are.
A reader takes a value back from its document if that document holds what the
reader needs; the laws below say so for each way in which readers are built.
-/

namespace PodIsolation

/-!
# Sorted collections
-/

namespace SortedMap

theorem insertEntry_of_lt {key : String} {value : V} {entries : List (String × V)}
    (h : forall entry, entry ∈ entries -> entry.1 < key) :
    insertEntry key value entries = entries ++ [(key, value)] := by
  induction entries with
  | nil => rfl
  | cons head rest ih =>
      have hhead : head.1 < key := h head List.mem_cons_self
      have hne : key ≠ head.1 := by
        intro heq
        exact String.lt_irrefl key (heq ▸ hhead)
      rw [insertEntry, if_neg (String.lt_asymm hhead), if_neg hne,
        ih fun entry hentry => h entry (List.mem_cons_of_mem head hentry), List.cons_append]

/-- Pairs in increasing order are added one after the other. -/
theorem entries_foldl_insert (pairs : List (String × V)) (m : SortedMap V)
    (h : (m.entries ++ pairs).Pairwise (fun a b => a.1 < b.1)) :
    (pairs.foldl (fun m pair => m.insert pair.1 pair.2) m).entries = m.entries ++ pairs := by
  induction pairs generalizing m with
  | nil => simp
  | cons pair rest ih =>
      have hlast : (m.insert pair.1 pair.2).entries = m.entries ++ [pair] := by
        apply insertEntry_of_lt
        intro entry hentry
        exact (List.pairwise_append.mp h).right.right entry hentry pair List.mem_cons_self
      have happend : m.entries ++ pair :: rest = (m.insert pair.1 pair.2).entries ++ rest := by
        rw [hlast, List.append_assoc, List.singleton_append]
      rw [happend] at h ⊢
      exact ih _ h

theorem ofList_entries (m : SortedMap V) : ofList m.entries = m := by
  have hentries : (ofList m.entries).entries = m.entries :=
    entries_foldl_insert m.entries ∅ m.sorted
  generalize ofList m.entries = n at hentries
  cases m
  cases n
  cases hentries
  rfl

end SortedMap

namespace StringSet

theorem insertItem_of_lt {item : String} {items : List String}
    (h : forall other, other ∈ items -> other < item) :
    insertItem item items = items ++ [item] := by
  induction items with
  | nil => rfl
  | cons head rest ih =>
      have hhead : head < item := h head List.mem_cons_self
      have hne : item ≠ head := by
        intro heq
        exact String.lt_irrefl item (heq ▸ hhead)
      rw [insertItem, if_neg (String.lt_asymm hhead), if_neg hne,
        ih fun other hother => h other (List.mem_cons_of_mem head hother), List.cons_append]

theorem items_foldl_insert (added : List String) (s : StringSet)
    (h : (s.items ++ added).Pairwise (fun a b => a < b)) :
    (added.foldl insert s).items = s.items ++ added := by
  induction added generalizing s with
  | nil => simp
  | cons item rest ih =>
      have hlast : (s.insert item).items = s.items ++ [item] := by
        apply insertItem_of_lt
        intro other hother
        exact (List.pairwise_append.mp h).right.right other hother item List.mem_cons_self
      have happend : s.items ++ item :: rest = (s.insert item).items ++ rest := by
        rw [hlast, List.append_assoc, List.singleton_append]
      rw [happend] at h ⊢
      exact ih _ h

theorem ofList_items (s : StringSet) : ofList s.items = s := by
  have hitems : (ofList s.items).items = s.items := items_foldl_insert s.items ∅ s.sorted
  generalize ofList s.items = t at hitems
  cases s
  cases t
  cases hitems
  rfl

end StringSet

namespace Json

/-!
# Documents as drafts
-/

namespace Draft

theorem ofItems_eq_map (items : List Json) : ofItems items = items.map ofJson := by
  induction items with
  | nil => rfl
  | cons item rest ih => rw [ofItems, ih, List.map_cons]

theorem ofMembers_eq_map (members : List (String × Json)) :
    ofMembers members = members.map fun member => (some member.1, ofJson member.2) := by
  induction members with
  | nil => rfl
  | cons member rest ih => rw [ofMembers, ih, List.map_cons]

theorem ofMembers_zip (names : List String) (values : List Json) :
    ofMembers (names.zip values) = (names.map some).zip (ofItems values) := by
  rw [ofMembers_eq_map, ofItems_eq_map, List.zip_map]
  rfl

theorem ofJson_ne_null {j : Json} (h : j ≠ .null) : ofJson j ≠ .null := by
  cases j with
  | null => exact absurd rfl h
  | bool b | int n | real x | string s | list items | object members =>
      unfold ofJson
      exact Draft.noConfusion

end Draft

/-!
# Records
-/

namespace Record

variable {S : Type} {fields : List (Field S)}

theorem find?_of_nodup {before after : List (Field S)} {f : Field S}
    (hfields : fields = before ++ f :: after) (hnodup : (fields.map Field.name).Nodup) :
    fields.find? (fun g => g.name = f.name) = some f := by
  subst hfields
  rw [List.map_append, List.nodup_append] at hnodup
  have hbefore : before.find? (fun g => g.name = f.name) = none := by
    rw [List.find?_eq_none]
    intro g hg hname
    refine hnodup.right.right g.name (List.mem_map_of_mem hg) f.name ?_ (by simpa using hname)
    exact List.mem_map_of_mem List.mem_cons_self
  rw [List.find?_append, hbefore]
  simp

/-- The members in the order of their declaration are read one by one. -/
theorem readMembers_declared {before rest : List (Field S)} (hfields : fields = before ++ rest)
    (hnodup : (fields.map Field.name).Nodup) (other : Others S) (p : Place)
    {drafts : List Draft} (hlength : drafts.length = rest.length) (s : S) :
    readMembers fields true other p ((rest.map fun f => some f.name).zip drafts)
        (before.map Field.name).reverse s =
      (readItems p none rest drafts s).map fun s => ((fields.map Field.name).reverse, s) := by
  induction rest generalizing before drafts s with
  | nil =>
      have hdrafts : drafts = [] := List.length_eq_zero_iff.mp hlength
      rw [hdrafts, hfields, List.append_nil]
      rfl
  | cons f rest ih =>
      cases drafts with
      | nil => cases hlength
      | cons d drafts =>
          have hfind := find?_of_nodup hfields hnodup
          -- No two declared members have one name, so this one has not been met yet.
          have hmet : (before.map Field.name).reverse.contains f.name = false := by
            rw [hfields, List.map_append, List.nodup_append] at hnodup
            simp only [List.contains_eq_mem, List.mem_reverse, decide_eq_false_iff_not]
            intro hmem
            exact hnodup.right.right f.name hmem f.name
              (List.mem_map_of_mem List.mem_cons_self) rfl
          have hlater : fields = (before ++ [f]) ++ rest := by
            rw [hfields, List.append_assoc, List.singleton_append]
          have hnames : ((before ++ [f]).map Field.name).reverse =
              f.name :: (before.map Field.name).reverse := by
            simp
          simp only [List.map_cons, List.zip_cons_cons, readMembers, readItems, hfind, hmet]
          cases f.read p d s with
          | error fault => rfl
          | ok s' =>
              have hrest := ih hlater (Nat.succ.inj hlength) s'
              rw [hnames] at hrest
              exact hrest

/-- An object with all declared members in their order is read like the list of
these members. -/
theorem readObject_declared (hnodup : (fields.map Field.name).Nodup) (other : Others S)
    (empty : S) (p : Place) {drafts : List Draft} (hlength : drafts.length = fields.length) :
    readObject fields true other empty p ((fields.map fun f => some f.name).zip drafts) none =
      readItems p.inner none fields drafts empty := by
  have hcomplete : isComplete fields (fields.map Field.name).reverse = true := by
    unfold isComplete
    rw [List.all_eq_true]
    intro f hf
    simp only [Bool.or_eq_true, List.contains_eq_mem, List.mem_reverse, decide_eq_true_eq]
    exact Or.inr (List.mem_map_of_mem hf)
  have hmembers := readMembers_declared (List.nil_append fields).symm hnodup other p.inner hlength
    empty
  unfold readObject
  rw [List.map_nil, List.reverse_nil] at hmembers
  rw [hmembers]
  cases readItems p.inner none fields drafts empty with
  | error fault => rfl
  | ok s =>
      change (if isComplete fields (fields.map Field.name).reverse then _ else _) = _
      rw [if_pos hcomplete]

theorem readItems_cons {f : Field S} {rest : List (Field S)} {drafts : List Draft} {d : Draft}
    {p : Place} {ending : Option TextFault} {s s' value : S} (hread : f.read p d s = .ok s')
    (hrest : readItems p ending rest drafts s' = .ok value) :
    readItems p ending (f :: rest) (d :: drafts) s = .ok value := by
  rw [readItems, hread]
  exact hrest

end Record

namespace Reader

/-- A record is read alike from an object and from a list if all declared members
are given in their order. -/
theorem record_object_eq_list {fields : List (Field S)}
    (hnodup : (fields.map Field.name).Nodup) (empty : S) (p : Place) {values : List Json}
    (hlength : values.length = fields.length) :
    record empty fields p (.ofJson (.object ((fields.map Field.name).zip values))) =
      record empty fields p (.ofJson (.list values)) := by
  have hdrafts : (Draft.ofItems values).length = fields.length := by
    rw [Draft.ofItems_eq_map, List.length_map, hlength]
  have hmembers : Draft.ofMembers ((fields.map Field.name).zip values) =
      (fields.map fun f => some f.name).zip (Draft.ofItems values) := by
    rw [Draft.ofMembers_zip, List.map_map]
    rfl
  rw [Draft.ofJson, Draft.ofJson, hmembers]
  exact Record.readObject_declared hnodup .skipped empty p hdrafts

/-- A text that is not declared is passed over. -/
theorem record_undeclared {fields : List (Field S)} {name : String}
    (hname : fields.find? (fun f => f.name = name) = none) (empty : S) (p : Place)
    (text : String) (members : List (String × Json)) :
    record empty fields p (.ofJson (.object ((name, .string text) :: members))) =
      record empty fields p (.ofJson (.object members)) := by
  simp only [record, Draft.ofJson, Draft.ofMembers, Record.readObject, Record.readMembers, hname]
  rfl

/-!
# Values that are read back
-/

/-- At a place, the reader takes the value back from its document. -/
def ReadsBack (r : Reader T) (p : Place) (encode : T -> Json) (value : T) : Prop :=
  r p (.ofJson (encode value)) = .ok value

variable {r : Reader T} {p : Place} {encode : T -> Json}

theorem readsBack_string (text : String) : string.ReadsBack p .string text :=
  rfl

theorem readsBack_int32 (n : Int32) : int32.ReadsBack p (fun n => .int n.toInt) n := by
  have hlow : Int32.minValue.toInt ≤ n.toInt := n.le_toInt
  have hhigh : n.toInt ≤ Int32.maxValue.toInt := n.toInt_le
  unfold ReadsBack int32
  rw [Draft.ofJson, int, if_pos ⟨hlow, hhigh⟩]
  exact congrArg Except.ok (Int32.ofInt_toInt n)

/-- A value is told from null if its document is not null. -/
theorem ReadsBack.nullable {value : Option T}
    (hencode : forall a, value = some a -> encode a ≠ .null)
    (h : forall a, value = some a -> r.ReadsBack p encode a) :
    r.nullable.ReadsBack p (Json.nullable encode) value := by
  cases value with
  | none => rfl
  | some a =>
      have hnull := Draft.ofJson_ne_null (hencode a rfl)
      have hread : r p (.ofJson (encode a)) = .ok a := h a rfl
      unfold ReadsBack Json.nullable
      simp only
      generalize Draft.ofJson (encode a) = d at hnull hread
      unfold Reader.nullable
      split
      · exact absurd rfl hnull
      · rw [hread]
        rfl

theorem items_map (p : Place) {values : List T}
    (h : forall a, a ∈ values -> r.ReadsBack p encode a) :
    items r p (Draft.ofItems (values.map encode)) = .ok values := by
  induction values with
  | nil => rfl
  | cons a rest ih =>
      have ha : r p (.ofJson (encode a)) = .ok a := h a List.mem_cons_self
      have hrest := ih fun b hb => h b (List.mem_cons_of_mem a hb)
      rw [List.map_cons, Draft.ofItems, items, ha, hrest]
      rfl

theorem ReadsBack.list {values : List T}
    (h : forall a, a ∈ values -> r.ReadsBack p.inner encode a) :
    (Reader.list r).ReadsBack p (fun values => .list (values.map encode)) values := by
  unfold ReadsBack Reader.list
  simp only [Draft.ofJson, items_map p.inner h]
  rfl

theorem readsBack_set (values : StringSet) :
    (set string).ReadsBack p (fun values => Json.strings values.items) values := by
  have hitems : (list string).ReadsBack p (fun texts => .list (texts.map .string)) values.items :=
    ReadsBack.list fun text _ => readsBack_string text
  unfold ReadsBack at hitems ⊢
  unfold set map Json.strings
  rw [hitems]
  exact congrArg Except.ok values.ofList_items

theorem members_map (p : Place) {entries : List (String × T)}
    (h : forall entry, entry ∈ entries -> r.ReadsBack p encode entry.2) :
    members r p (Draft.ofMembers (entries.map fun entry => (entry.1, encode entry.2))) =
      .ok entries := by
  induction entries with
  | nil => rfl
  | cons entry rest ih =>
      have hentry : r p (.ofJson (encode entry.2)) = .ok entry.2 := h entry List.mem_cons_self
      have hrest := ih fun other hother => h other (List.mem_cons_of_mem entry hother)
      rw [List.map_cons, Draft.ofMembers, members, hentry, hrest]
      rfl

theorem ReadsBack.dictionary {m : SortedMap T}
    (h : forall entry, entry ∈ m.entries -> r.ReadsBack p.inner encode entry.2) :
    (Reader.dictionary r).ReadsBack p
      (fun m => .object (m.entries.map fun entry => (entry.1, encode entry.2))) m := by
  unfold ReadsBack Reader.dictionary
  simp only [Draft.ofJson, members_map p.inner h]
  exact congrArg Except.ok m.ofList_entries

end Reader

namespace Field

variable {r : Reader T} {p : Place} {encode : T -> Json} {name : String}

/-- A member is taken in as it was given. -/
theorem reading_readsBack {value : T} (h : r.ReadsBack p encode value) (set : T -> S -> S)
    (s : S) : reading r set p (.ofJson (encode value)) s = .ok (set value s) := by
  unfold reading
  rw [h]
  rfl

theorem required_readsBack {value : T} (h : r.ReadsBack p encode value) (set : T -> S -> S)
    (s : S) : (required name r set).read p (.ofJson (encode value)) s = .ok (set value s) :=
  reading_readsBack h set s

theorem defaulted_readsBack {value : T} (h : r.ReadsBack p encode value) (set : T -> S -> S)
    (s : S) : (defaulted name r set).read p (.ofJson (encode value)) s = .ok (set value s) :=
  reading_readsBack h set s

theorem optional_readsBack {value : Option T}
    (hencode : forall a, value = some a -> encode a ≠ .null)
    (h : forall a, value = some a -> r.ReadsBack p encode a) (set : Option T -> S -> S) (s : S) :
    (optional name r set).read p (.ofJson (Json.nullable encode value)) s =
      .ok (set value s) :=
  reading_readsBack (.nullable hencode h) set s

end Field

/-!
# Records that are read back
-/

/-- The members of an object with the given names, in the order of the names. -/
def positional (names : List String) (j : Json) : Json :=
  .list (names.map fun name => (j.get? name).getD .null)

theorem positional_zip {names : List String} {values : List Json} (hnodup : names.Nodup)
    (hlength : values.length = names.length) :
    positional names (.object (names.zip values)) = .list values := by
  have hlookup : forall names : List String, names.Nodup -> forall values : List Json,
      values.length = names.length ->
      names.map (fun name => ((names.zip values).lookup name).getD .null) = values := by
    intro names
    induction names with
    | nil =>
        intro _ values hlength
        exact (List.length_eq_zero_iff.mp hlength).symm
    | cons name rest ih =>
        intro hnodup values hlength
        cases values with
        | nil => cases hlength
        | cons value values =>
            obtain ⟨hname, hrest⟩ := List.nodup_cons.mp hnodup
            have hvalues := ih hrest values (Nat.succ.inj hlength)
            rw [List.zip_cons_cons, List.map_cons, List.lookup_cons_self, Option.getD_some]
            refine congrArg (List.cons value) (Eq.trans ?_ hvalues)
            apply List.map_congr_left
            intro other hother
            have hne : other ≠ name := by
              rintro rfl
              exact hname hother
            rw [List.lookup_cons, beq_false_of_ne hne]
  exact congrArg Json.list (hlookup names hnodup values hlength)

namespace Reader

/-- At a place, the reader takes the value back from its document, and from the
list of the members of the document that have the given names. -/
structure Recovers (r : Reader T) (names : List String) (p : Place) (encode : T -> Json)
    (value : T) : Prop where
  named : r.ReadsBack p encode value
  listed : r p (.ofJson ((encode value).positional names)) = .ok value

theorem record_recovers {fields : List (Field S)} {empty value : S} {encode : S -> Json}
    {p : Place} (hnodup : (fields.map Field.name).Nodup) (values : List Json)
    (hencode : encode value = .object ((fields.map Field.name).zip values))
    (hlength : values.length = fields.length)
    (hitems : Record.readItems p.inner none fields (Draft.ofItems values) empty = .ok value) :
    (record empty fields).Recovers (fields.map Field.name) p encode value := by
  have hlist : record empty fields p (.ofJson (.list values)) = .ok value := hitems
  constructor
  · unfold ReadsBack
    rw [hencode, record_object_eq_list hnodup empty p hlength]
    exact hlist
  · rw [hencode, positional_zip hnodup (by rw [List.length_map, hlength])]
    exact hlist

end Reader

end Json

end PodIsolation
