import Mathlib.Algebra.Group.Nat.Defs
import Mathlib.Data.List.TakeWhile
import PodIsolation.Proofs.AddressText
import PodIsolation.Text.Timestamp

/-!
# Texts of timestamps

## Reading what was written

The text of a timestamp is read back as the same timestamp, whatever its year
and even in a leap second.
-/

namespace PodIsolation

namespace Text

theorem not_isBlank_of_isDigit {c : Char} (h : c.isDigit = true) : isBlank c = false := by
  simp only [Char.isDigit, Bool.and_eq_true, decide_eq_true_eq] at h
  have hlow : 48 ≤ c.toNat := UInt32.le_iff_toNat_le.mp h.left
  have hhigh : c.toNat ≤ 57 := UInt32.le_iff_toNat_le.mp h.right
  exact isBlank_of_visible (by omega) (by omega)

end Text

theorem monthLength_le (year : Int) (month : Nat) : monthLength year month ≤ 31 := by
  unfold monthLength
  split_ifs <;> decide

namespace Timestamp

/-!
# Padded numerals
-/

theorem toList_padded (width n : Nat) :
    (padded width n).toList =
      List.replicate (width - (Nat.toDigits 10 n).length) '0' ++ Nat.toDigits 10 n := by
  simp [padded]

theorem isDigit_of_mem_padded {width n : Nat} {c : Char} (h : c ∈ (padded width n).toList) :
    c.isDigit = true := by
  rw [toList_padded] at h
  rcases List.mem_append.mp h with h | h
  · rw [(List.mem_replicate.mp h).right]
    rfl
  · exact Numeral.isDigit_of_mem_toDigits h

theorem length_padded {width n : Nat} (hwidth : 0 < width) (hn : n < 10 ^ width) :
    (padded width n).toList.length = width := by
  have hlength : (Nat.toDigits 10 n).length ≤ width :=
    (Nat.length_toDigits_le_iff (by decide) hwidth).mpr hn
  rw [toList_padded, List.length_append, List.length_replicate]
  omega

theorem ofDigitChars_replicate (k : Nat) (digits : List Char) :
    Nat.ofDigitChars 10 (List.replicate k '0' ++ digits) 0 = Nat.ofDigitChars 10 digits 0 := by
  induction k with
  | zero => rfl
  | succ k ih =>
      rw [List.replicate_succ, List.cons_append, Nat.ofDigitChars_cons]
      exact ih

theorem decimal?_padded (width n : Nat) : Numeral.decimal? (padded width n).toList = some n := by
  have hne : (padded width n).toList ≠ [] := by
    rw [toList_padded]
    exact List.append_ne_nil_of_right_ne_nil _ Nat.toDigits_ne_nil
  have hdecimal : Numeral.isDecimal (padded width n).toList = true := by
    simp only [Numeral.isDecimal, Bool.and_eq_true, Bool.not_eq_true', List.isEmpty_eq_false_iff,
      List.all_eq_true]
    exact ⟨hne, fun c => isDigit_of_mem_padded⟩
  rw [Numeral.decimal?, if_pos hdecimal, toList_padded, ofDigitChars_replicate,
    Nat.ofDigitChars_ten_toDigits]

/-!
# Parts of a text
-/

theorem skipBlanks_padded (width n : Nat) (rest : List Char) :
    skipBlanks ((padded width n).toList ++ rest) = (padded width n).toList ++ rest := by
  cases hdigits : (padded width n).toList with
  | nil => simp [toList_padded, Nat.toDigits_ne_nil] at hdigits
  | cons c digits =>
      have hc : Text.isBlank c = false :=
        Text.not_isBlank_of_isDigit (isDigit_of_mem_padded (hdigits ▸ List.mem_cons_self))
      rw [List.cons_append, skipBlanks, List.dropWhile_cons_of_neg (ne_true_of_eq_false hc)]

theorem readNumeral?_padded {width n : Nat} (hwidth : 0 < width) (hn : n < 10 ^ width)
    (rest : List Char) :
    readNumeral? width ((padded width n).toList ++ rest) = some (n, rest) := by
  have hlength := length_padded hwidth hn
  have hdigits : ((padded width n).toList).takeWhile Char.isDigit = (padded width n).toList :=
    List.takeWhile_eq_self_iff.mpr fun c => isDigit_of_mem_padded
  rw [readNumeral?, skipBlanks_padded]
  simp only [List.take_left' hlength, hdigits, decimal?_padded, Option.map_some,
    List.drop_left]

theorem readMark?_cons {mark : Char} (hmark : Text.isBlank mark = false) (rest : List Char) :
    readMark? mark (mark :: rest) = some rest := by
  simp [readMark?, skipBlanks, hmark]

/-- All digits are read where none follows. -/
theorem span_padded (width n : Nat) {c : Char} (hc : c.isDigit = false) (rest : List Char) :
    Numeral.decimal? (((padded width n).toList ++ c :: rest).takeWhile Char.isDigit) = some n ∧
      ((padded width n).toList ++ c :: rest).dropWhile Char.isDigit = c :: rest := by
  have hdigits : forall d, d ∈ (padded width n).toList -> d.isDigit = true :=
    fun d => isDigit_of_mem_padded
  have hstop : ¬ c.isDigit = true := ne_true_of_eq_false hc
  rw [List.takeWhile_append_of_pos hdigits, List.dropWhile_append_of_pos hdigits,
    List.takeWhile_cons_of_neg hstop, List.dropWhile_cons_of_neg hstop, List.append_nil]
  exact ⟨decimal?_padded width n, rfl⟩

theorem readYear?_minus {text : List Char} {n : Nat}
    (h : Numeral.decimal? (text.takeWhile Char.isDigit) = some n) :
    readYear? ('-' :: text) = some (-(n : Int), text.dropWhile Char.isDigit) := by
  have hmark : Text.isBlank '-' = false := by decide
  simp [readYear?, skipBlanks, hmark, h]

theorem readYear?_plus {text : List Char} {n : Nat}
    (h : Numeral.decimal? (text.takeWhile Char.isDigit) = some n) :
    readYear? ('+' :: text) = some ((n : Int), text.dropWhile Char.isDigit) := by
  have hmark : Text.isBlank '+' = false := by decide
  simp [readYear?, skipBlanks, hmark, h]

/-- A year that begins with a digit has no sign. -/
theorem readYear?_padded {n : Nat} (hn : n < 10 ^ 4) (rest : List Char) :
    readYear? ((padded 4 n).toList ++ rest) = some ((n : Int), rest) := by
  have hread := readNumeral?_padded (by decide) hn rest
  have hblanks := skipBlanks_padded 4 n rest
  cases hdigits : (padded 4 n).toList with
  | nil => simp [toList_padded, Nat.toDigits_ne_nil] at hdigits
  | cons c digits =>
      have hc : c.isDigit = true := isDigit_of_mem_padded (hdigits ▸ List.mem_cons_self)
      rw [hdigits, List.cons_append] at hread hblanks
      rw [List.cons_append, readYear?, hblanks]
      split
      next heq =>
        cases heq
        cases hc
      next heq =>
        cases heq
        cases hc
      next => rw [hread, Option.map_some]

theorem readYear?_yearText (year : Int) (rest : List Char) :
    readYear? ((yearText year).toList ++ '-' :: rest) = some (year, '-' :: rest) := by
  rcases span_padded 4 year.natAbs (c := '-') rfl rest with ⟨hdigits, hrest⟩
  unfold yearText
  by_cases hneg : year < 0
  · have hyear : -(year.natAbs : Int) = year := by omega
    have hsign : "-".toList = ['-'] := rfl
    rw [if_pos hneg, String.toList_append, List.append_assoc, hsign, List.singleton_append,
      readYear?_minus hdigits, hrest, hyear]
  · have hyear : (year.natAbs : Int) = year := by omega
    rw [if_neg hneg]
    by_cases hlong : 9999 < year
    · have hsign : "+".toList = ['+'] := rfl
      rw [if_pos hlong, String.toList_append, List.append_assoc, hsign, List.singleton_append,
        readYear?_plus hdigits, hrest, hyear]
    · have hshort : year.natAbs < 10 ^ 4 := by omega
      rw [if_neg hlong, readYear?_padded hshort, hyear]

theorem universal?_zero (t : Timestamp) : t.universal? 0 = some t := by
  have hhour := t.hour_lt
  have hminute := t.minute_lt
  have hclock : ((t.hour * 60 + t.minute : Nat) - 0 : Int) % 1440 =
      (t.hour * 60 + t.minute : Nat) := by omega
  have hdivided : (t.hour * 60 + t.minute) / 60 = t.hour := by omega
  have hrest : (t.hour * 60 + t.minute) % 60 = t.minute := by omega
  have hsame : ¬ ((t.hour * 60 + t.minute : Nat) - 0 : Int) < 0 := by omega
  have hday : ((t.hour * 60 + t.minute : Nat) - 0 : Int) < 1440 := by omega
  simp only [universal?, if_neg hsame, if_pos hday, Option.bind_some, hclock, Int.toNat_natCast,
    hdivided, hrest, of?_self]

theorem toList_text (t : Timestamp) :
    t.text.toList =
      (yearText t.date.year).toList ++ '-' :: ((padded 2 t.date.month).toList ++
        '-' :: ((padded 2 t.date.day).toList ++ 'T' :: ((padded 2 t.hour).toList ++
          ':' :: ((padded 2 t.minute).toList ++ ':' :: ((padded 2 t.second).toList ++
            ['Z']))))) := by
  simp [text, String.toList_append, List.append_assoc]

/-- A timestamp is read back from its text. -/
theorem ofText?_text (t : Timestamp) : ofText? t.text = some t := by
  have hdash : Text.isBlank '-' = false := by decide
  have hcolon : Text.isBlank ':' = false := by decide
  have hmonth : t.date.month < 10 ^ 2 := Nat.lt_of_le_of_lt t.date.month_le (by decide)
  have hday : t.date.day < 10 ^ 2 :=
    Nat.lt_of_le_of_lt (Nat.le_trans t.date.day_le (monthLength_le _ _)) (by decide)
  have hhour : t.hour < 10 ^ 2 := Nat.lt_trans t.hour_lt (by decide)
  have hminute : t.minute < 10 ^ 2 := Nat.lt_trans t.minute_lt (by decide)
  have hsecond : t.second < 10 ^ 2 := Nat.lt_of_le_of_lt t.second_le (by decide)
  have hpair : 0 < 2 := by decide
  have hoffset : readOffset? (skipBlanks ['Z']) = some (0, []) := by decide
  unfold ofText?
  rw [toList_text]
  refine Option.bind_eq_some_iff.mpr ⟨_, readYear?_yearText _ _, ?_⟩
  refine Option.bind_eq_some_iff.mpr ⟨_, readMark?_cons hdash _, ?_⟩
  refine Option.bind_eq_some_iff.mpr ⟨_, readNumeral?_padded hpair hmonth _, ?_⟩
  refine Option.bind_eq_some_iff.mpr ⟨_, readMark?_cons hdash _, ?_⟩
  refine Option.bind_eq_some_iff.mpr ⟨_, readNumeral?_padded hpair hday _, ?_⟩
  refine Option.bind_eq_some_iff.mpr ⟨_, rfl, ?_⟩
  refine Option.bind_eq_some_iff.mpr ⟨_, readNumeral?_padded hpair hhour _, ?_⟩
  refine Option.bind_eq_some_iff.mpr ⟨_, readMark?_cons hcolon _, ?_⟩
  refine Option.bind_eq_some_iff.mpr ⟨_, readNumeral?_padded hpair hminute _, ?_⟩
  refine Option.bind_eq_some_iff.mpr ⟨_, readMark?_cons hcolon _, ?_⟩
  refine Option.bind_eq_some_iff.mpr ⟨_, readNumeral?_padded hpair hsecond _, ?_⟩
  refine Option.bind_eq_some_iff.mpr ⟨['Z'], rfl, ?_⟩
  refine Option.bind_eq_some_iff.mpr ⟨_, hoffset, ?_⟩
  refine Option.bind_eq_some_iff.mpr ⟨_, t.date.of?_self, ?_⟩
  exact Option.bind_eq_some_iff.mpr ⟨t, t.of?_self, t.universal?_zero⟩

end Timestamp

end PodIsolation
