/-!
# Letters without case

## Comparison up to the case of ASCII letters

Letters beyond ASCII are told apart by case.
-/

namespace PodIsolation

namespace Text

def sameLetters (s t : String) : Bool :=
  s.toList.map Char.toLower == t.toList.map Char.toLower

end Text

end PodIsolation
