/-!
# White space

## The blank characters of Unicode

The characters with the property `White_Space`.  Zero-width characters and the
byte order mark do not have it.
-/

namespace PodIsolation

namespace Text

def isBlank (c : Char) : Bool :=
  ('\x09' ≤ c && c ≤ '\x0d') || c == ' ' || c == '\u0085' || c == '\u00a0' ||
    c == '\u1680' || ('\u2000' ≤ c && c ≤ '\u200a') || c == '\u2028' ||
    c == '\u2029' || c == '\u202f' || c == '\u205f' || c == '\u3000'

/-- The characters of ASCII that can be seen are not blank. -/
theorem isBlank_of_visible {c : Char} (hlow : 33 ≤ c.toNat) (hhigh : c.toNat ≤ 126) :
    isBlank c = false := by
  have hc : Char.ofNat (33 + (c.toNat - 33)) = c := by
    rw [Nat.add_sub_cancel' hlow, Char.ofNat_toNat]
  have hall : forall k, k < 94 -> isBlank (Char.ofNat (33 + k)) = false := by decide
  rw [← hc]
  exact hall (c.toNat - 33) (by omega)

/-- The text between the first and the last character that is not blank. -/
def trimmed (text : List Char) : List Char :=
  ((text.dropWhile isBlank).reverse.dropWhile isBlank).reverse

def trim (s : String) : String :=
  String.ofList (trimmed s.toList)

end Text

end PodIsolation
