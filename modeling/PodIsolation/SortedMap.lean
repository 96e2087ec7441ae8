/-!
# Maps in key order

## Sorted association lists

A finite map from strings, kept as a list of pairs with strictly increasing
keys.  Strings are ordered by code point.  Because the list is determined by
its look-ups, two maps with the same look-ups are equal.
-/

namespace PodIsolation

structure SortedMap (V : Type u) where
  entries : List (String × V)
  sorted : entries.Pairwise (fun a b => a.1 < b.1) := by simp

namespace SortedMap

instance : EmptyCollection (SortedMap V) where
  emptyCollection := { entries := [] }

instance : Inhabited (SortedMap V) where
  default := ∅

instance [DecidableEq V] : DecidableEq (SortedMap V) := fun a b =>
  decidable_of_iff (a.entries = b.entries) (by cases a; cases b; simp)

def get? (m : SortedMap V) (key : String) : Option V :=
  m.entries.lookup key

def contains (m : SortedMap V) (key : String) : Bool :=
  (m.get? key).isSome

def isEmpty (m : SortedMap V) : Bool :=
  m.entries.isEmpty

def keys (m : SortedMap V) : List String :=
  m.entries.map Prod.fst

/-!
## Insertion

A new value replaces the one under the same key.
-/

def insertEntry (key : String) (value : V) : List (String × V) -> List (String × V)
  | [] => [(key, value)]
  | entry :: rest =>
      if key < entry.1 then (key, value) :: entry :: rest
      else if key = entry.1 then (key, value) :: rest
      else entry :: insertEntry key value rest

theorem mem_insertEntry {key : String} {value : V} {entry : String × V}
    {entries : List (String × V)} (h : entry ∈ insertEntry key value entries) :
    entry = (key, value) ∨ entry ∈ entries := by
  induction entries with
  | nil => simpa [insertEntry] using h
  | cons head rest ih =>
      simp only [insertEntry] at h
      split at h
      · simpa using h
      · split at h
        · rcases List.mem_cons.mp h with h | h
          · exact Or.inl h
          · exact Or.inr (List.mem_cons_of_mem _ h)
        · rcases List.mem_cons.mp h with h | h
          · exact Or.inr (h ▸ List.mem_cons_self)
          · rcases ih h with h | h
            · exact Or.inl h
            · exact Or.inr (List.mem_cons_of_mem _ h)

theorem pairwise_insertEntry (key : String) (value : V)
    {entries : List (String × V)}
    (h : entries.Pairwise (fun a b => a.1 < b.1)) :
    (insertEntry key value entries).Pairwise (fun a b => a.1 < b.1) := by
  induction entries with
  | nil => simp [insertEntry]
  | cons head rest ih =>
      obtain ⟨hhead, hrest⟩ := List.pairwise_cons.mp h
      simp only [insertEntry]
      split
      · rename_i hlt
        refine List.pairwise_cons.mpr ⟨?_, h⟩
        intro entry hentry
        rcases List.mem_cons.mp hentry with hentry | hentry
        · exact hentry ▸ hlt
        · exact String.lt_trans hlt (hhead entry hentry)
      · split
        · rename_i heq
          exact List.pairwise_cons.mpr ⟨fun entry hentry => heq ▸ hhead entry hentry, hrest⟩
        · rename_i hnlt hne
          refine List.pairwise_cons.mpr ⟨?_, ih hrest⟩
          intro entry hentry
          rcases mem_insertEntry hentry with hentry | hentry
          · rcases Std.lt_trichotomy key head.1 with hlt | heq | hgt
            · exact absurd hlt hnlt
            · exact absurd heq hne
            · exact hentry ▸ hgt
          · exact hhead entry hentry

def insert (m : SortedMap V) (key : String) (value : V) : SortedMap V where
  entries := insertEntry key value m.entries
  sorted := pairwise_insertEntry key value m.sorted

/-- Later pairs replace earlier ones with the same key. -/
def ofList (pairs : List (String × V)) : SortedMap V :=
  pairs.foldl (fun m pair => m.insert pair.1 pair.2) ∅

/-- The values under the keys that satisfy a condition. -/
def filter (m : SortedMap V) (keep : String -> V -> Bool) : SortedMap V where
  entries := m.entries.filter fun entry => keep entry.1 entry.2
  sorted := m.sorted.filter _

def erase (m : SortedMap V) (key : String) : SortedMap V :=
  m.filter fun k _ => k ≠ key

/-!
## Look-up after insertion
-/

theorem lookup_insertEntry (key k : String) (value : V) (entries : List (String × V))
    (h : entries.Pairwise (fun a b => a.1 < b.1)) :
    (insertEntry key value entries).lookup k =
      if k = key then some value else entries.lookup k := by
  induction entries with
  | nil =>
      by_cases hk : k = key
      · simp [insertEntry, hk]
      · simp [insertEntry, List.lookup_cons, hk, beq_false_of_ne hk]
  | cons head rest ih =>
      obtain ⟨name, v⟩ := head
      obtain ⟨_, hrest⟩ := List.pairwise_cons.mp h
      simp only [insertEntry]
      split
      · by_cases hk : k = key
        · simp [hk]
        · simp [List.lookup_cons, hk, beq_false_of_ne hk]
      · split
        · rename_i heq
          by_cases hk : k = key
          · simp [hk]
          · have hname : k ≠ name := fun h => hk (h.trans heq.symm)
            simp [List.lookup_cons, hk, beq_false_of_ne hk, beq_false_of_ne hname]
        · rename_i _ hne
          by_cases hname : k = name
          · have hk : ¬ k = key := fun h => hne (h.symm.trans hname)
            simp [hname, hname ▸ hk]
          · simp [List.lookup_cons, beq_false_of_ne hname, ih hrest]

@[simp] theorem get?_empty (key : String) :
    (∅ : SortedMap V).get? key = none := rfl

@[simp] theorem get?_insert (m : SortedMap V) (key k : String) (value : V) :
    (m.insert key value).get? k = if k = key then some value else m.get? k :=
  lookup_insertEntry key k value m.entries m.sorted

end SortedMap

/-- A label map: at most one value for each key. -/
abbrev Labels := SortedMap String

end PodIsolation
