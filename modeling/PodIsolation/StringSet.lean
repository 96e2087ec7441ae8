/-!
# Sets of strings

## Sorted lists without repetition

Kept as a strictly increasing list, by code point, so that equal sets are
equal lists.
-/

namespace PodIsolation

structure StringSet where
  items : List String
  sorted : items.Pairwise (fun a b => a < b) := by simp
deriving DecidableEq

namespace StringSet

instance : EmptyCollection StringSet where
  emptyCollection := { items := [] }

def insertItem (item : String) : List String -> List String
  | [] => [item]
  | head :: rest =>
      if item < head then item :: head :: rest
      else if item = head then head :: rest
      else head :: insertItem item rest

theorem mem_insertItem {item other : String} {items : List String} :
    other ∈ insertItem item items ↔ other = item ∨ other ∈ items := by
  induction items with
  | nil => simp [insertItem]
  | cons head rest ih =>
      simp only [insertItem]
      split
      · simp
      · split
        · rename_i heq
          simp [heq]
        · simp only [List.mem_cons, ih]
          grind

theorem pairwise_insertItem (item : String) {items : List String}
    (h : items.Pairwise (fun a b => a < b)) :
    (insertItem item items).Pairwise (fun a b => a < b) := by
  induction items with
  | nil => simp [insertItem]
  | cons head rest ih =>
      obtain ⟨hhead, hrest⟩ := List.pairwise_cons.mp h
      simp only [insertItem]
      split
      · rename_i hlt
        refine List.pairwise_cons.mpr ⟨?_, h⟩
        intro other hother
        rcases List.mem_cons.mp hother with hother | hother
        · exact hother ▸ hlt
        · exact String.lt_trans hlt (hhead other hother)
      · split
        · exact h
        · rename_i hnlt hne
          refine List.pairwise_cons.mpr ⟨?_, ih hrest⟩
          intro other hother
          rcases mem_insertItem.mp hother with hother | hother
          · rcases Std.lt_trichotomy item head with hlt | heq | hgt
            · exact absurd hlt hnlt
            · exact absurd heq hne
            · exact hother ▸ hgt
          · exact hhead other hother

def insert (s : StringSet) (item : String) : StringSet where
  items := insertItem item s.items
  sorted := pairwise_insertItem item s.sorted

def ofList (items : List String) : StringSet :=
  items.foldl insert ∅

end StringSet

end PodIsolation
