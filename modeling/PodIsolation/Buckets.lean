import Std.Data.HashMap

/-!
# Buckets

## Positions grouped by key

An index over a list keeps, for each key, the positions of the items under it,
in the order in which they were added.
-/

namespace PodIsolation

abbrev Buckets (K : Type) [BEq K] [Hashable K] :=
  Std.HashMap K (Array Nat)

namespace Buckets

variable {K : Type} [BEq K] [Hashable K]

def add (b : Buckets K) (key : K) (position : Nat) : Buckets K :=
  b.insert key ((b.getD key #[]).push position)

/-- Adds a position under each of the keys. -/
def addUnder (b : Buckets K) (keys : List K) (position : Nat) : Buckets K :=
  keys.foldl (fun b key => b.add key position) b

def positions (b : Buckets K) (key : K) : List Nat :=
  (b.getD key #[]).toList

@[simp] theorem positions_empty (key : K) :
    positions (∅ : Buckets K) key = [] := by
  simp [positions]

theorem positions_add [LawfulBEq K] [LawfulHashable K] (b : Buckets K)
    (key k : K) (position : Nat) :
    positions (b.add key position) k =
      if key == k then b.positions k ++ [position] else b.positions k := by
  simp only [positions, add, Std.HashMap.getD_insert]
  split
  · rename_i h
    simp [eq_of_beq h]
  · rfl

end Buckets

end PodIsolation
