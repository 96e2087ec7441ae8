/-!
# Ranges of characters

## Tables by code point

A table lists ranges by their first and their last code point.
-/

namespace PodIsolation

namespace Text

/-- Whether a character is in one of the ranges. -/
def isWithin (ranges : List (Nat × Nat)) (c : Char) : Bool :=
  ranges.any fun range => range.1 ≤ c.toNat && c.toNat ≤ range.2

end Text

end PodIsolation
