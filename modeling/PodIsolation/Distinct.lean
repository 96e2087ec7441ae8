/-!
# First occurrences

## Keeping the first item of each key

Listings may repeat an item under one key; the first copy counts.
-/

namespace PodIsolation

/-- The items whose key is neither among those seen nor that of an item before. -/
def keepFirstBeyond [DecidableEq K] (key : alpha -> K) (seen : List K) :
    List alpha -> List alpha
  | [] => []
  | a :: rest =>
      if key a ∈ seen then keepFirstBeyond key seen rest
      else a :: keepFirstBeyond key (key a :: seen) rest

def keepFirst [DecidableEq K] (key : alpha -> K) (items : List alpha) : List alpha :=
  keepFirstBeyond key [] items

theorem keepFirstBeyond_sublist [DecidableEq K] (key : alpha -> K) (seen : List K)
    (items : List alpha) :
    (keepFirstBeyond key seen items).Sublist items := by
  induction items generalizing seen with
  | nil => exact List.Sublist.refl []
  | cons a rest ih =>
      simp only [keepFirstBeyond]
      split
      · exact List.Sublist.cons a (ih seen)
      · exact List.Sublist.cons_cons a (ih (key a :: seen))

theorem keepFirst_sublist [DecidableEq K] (key : alpha -> K) (items : List alpha) :
    (keepFirst key items).Sublist items :=
  keepFirstBeyond_sublist key [] items

end PodIsolation
