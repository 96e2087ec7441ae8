import PodIsolation.Text.Blank
import PodIsolation.Text.Letters
import PodIsolation.Text.Numeral

/-!
# Timestamps

## Dates and times of day

A timestamp is a date and a time of day in universal time, in whole seconds.  A
leap second may end any minute.

Timestamps are written in one form and read in many: with blanks between their
parts, with fewer digits, with a fraction of the second, which does not count,
and with an offset from universal time.
-/

namespace PodIsolation

/-!
## Dates
-/

def isLeapYear (year : Int) : Bool :=
  year % 4 == 0 && (year % 100 != 0 || year % 400 == 0)

def monthLength (year : Int) (month : Nat) : Nat :=
  if month = 2 then (if isLeapYear year then 29 else 28)
  else if [4, 6, 9, 11].contains month then 30
  else 31

/-- A day between the first and the last that can be told. -/
structure Date where
  year : Int
  month : Nat
  day : Nat
  year_ge : -262143 ≤ year
  year_le : year ≤ 262142
  month_pos : 1 ≤ month
  month_le : month ≤ 12
  day_pos : 1 ≤ day
  day_le : day ≤ monthLength year month
deriving DecidableEq

namespace Date

def of? (year : Int) (month day : Nat) : Option Date :=
  if h : -262143 ≤ year ∧ year ≤ 262142 ∧ 1 ≤ month ∧ month ≤ 12 ∧ 1 ≤ day ∧
      day ≤ monthLength year month then
    some {
      year, month, day
      year_ge := h.1
      year_le := h.2.1
      month_pos := h.2.2.1
      month_le := h.2.2.2.1
      day_pos := h.2.2.2.2.1
      day_le := h.2.2.2.2.2 }
  else none

@[simp] theorem of?_self (d : Date) : of? d.year d.month d.day = some d := by
  simp [of?, d.year_ge, d.year_le, d.month_pos, d.month_le, d.day_pos, d.day_le]

/-- The day after. -/
def next? (d : Date) : Option Date :=
  if d.day < monthLength d.year d.month then of? d.year d.month (d.day + 1)
  else if d.month < 12 then of? d.year (d.month + 1) 1
  else of? (d.year + 1) 1 1

/-- The day before. -/
def previous? (d : Date) : Option Date :=
  if 1 < d.day then of? d.year d.month (d.day - 1)
  else if 1 < d.month then of? d.year (d.month - 1) (monthLength d.year (d.month - 1))
  else of? (d.year - 1) 12 31

end Date

structure Timestamp where
  date : Date
  hour : Nat
  minute : Nat
  second : Nat
  hour_lt : hour < 24
  minute_lt : minute < 60
  second_le : second ≤ 60
deriving DecidableEq

namespace Timestamp

def of? (date : Date) (hour minute second : Nat) : Option Timestamp :=
  if h : hour < 24 ∧ minute < 60 ∧ second ≤ 60 then
    some {
      date, hour, minute, second
      hour_lt := h.1
      minute_lt := h.2.1
      second_le := h.2.2 }
  else none

@[simp] theorem of?_self (t : Timestamp) :
    of? t.date t.hour t.minute t.second = some t := by
  simp [of?, t.hour_lt, t.minute_lt, t.second_le]

/-- The same moment in universal time, from a time that is ahead of it by some
minutes, fewer than those of a day. -/
def universal? (t : Timestamp) (ahead : Int) : Option Timestamp :=
  let minutes : Int := (t.hour * 60 + t.minute : Nat) - ahead
  let date? :=
    if minutes < 0 then t.date.previous?
    else if minutes < 1440 then some t.date
    else t.date.next?
  date?.bind fun date =>
    let clock := (minutes % 1440).toNat
    of? date (clock / 60) (clock % 60) t.second

/-!
## Reading

Each function takes a part from the head of a text and leaves the text after it.
-/

def skipBlanks (text : List Char) : List Char :=
  text.dropWhile Text.isBlank

/-- A numeral of at most the given number of digits, after blanks. -/
def readNumeral? (width : Nat) (text : List Char) : Option (Nat × List Char) :=
  let text := skipBlanks text
  let digits := (text.take width).takeWhile Char.isDigit
  (Numeral.decimal? digits).map fun value => (value, text.drop digits.length)

/-- A year has up to four digits, or a sign and any number of digits. -/
def readYear? (text : List Char) : Option (Int × List Char) :=
  match skipBlanks text with
  | '-' :: text =>
      (Numeral.decimal? (text.takeWhile Char.isDigit)).map fun year =>
        (-(year : Int), text.dropWhile Char.isDigit)
  | '+' :: text =>
      (Numeral.decimal? (text.takeWhile Char.isDigit)).map fun year =>
        ((year : Int), text.dropWhile Char.isDigit)
  | text => (readNumeral? 4 text).map fun (year, rest) => ((year : Int), rest)

/-- A mark after blanks. -/
def readMark? (mark : Char) (text : List Char) : Option (List Char) :=
  match skipBlanks text with
  | c :: rest => if c = mark then some rest else none
  | [] => none

/-- What stands between the date and the time of day. -/
def readDivider? : List Char -> Option (List Char)
  | 'T' :: rest => some rest
  | 't' :: rest => some rest
  | ' ' :: rest => some rest
  | _ => none

/-- Passes over the fraction of a second. -/
def skipFraction? : List Char -> Option (List Char)
  | '.' :: c :: rest => if c.isDigit then some (rest.dropWhile Char.isDigit) else none
  | ['.'] => none
  | text => some text

def offsetSign? : Char -> Option Int
  | '+' => some 1
  | '-' => some (-1)
  | '\u2212' => some (-1)
  | _ => none

def digitPair? (a b : Char) : Option Nat :=
  Numeral.decimal? [a, b]

/-- Colons and blanks may stand between the hours and the minutes of an offset. -/
def isOffsetGap (c : Char) : Bool :=
  c == ':' || Text.isBlank c

/-- The minutes that a time is ahead of universal time. -/
def readOffset? : List Char -> Option (Int × List Char)
  | 'Z' :: rest => some (0, rest)
  | 'z' :: rest => some (0, rest)
  | text =>
      if Text.sameLetters (String.ofList (text.take 3)) "utc" then some (0, text.drop 3)
      else match text with
        | s :: a :: b :: rest => do
            let sign <- offsetSign? s
            let hours <- digitPair? a b
            match rest.dropWhile isOffsetGap with
            | c :: d :: rest =>
                let minutes <- digitPair? c d
                if hours < 24 && minutes < 60 then
                  some (sign * (hours * 60 + minutes : Nat), rest)
                else none
            | _ => none
        | _ => none

def ofChars? (text : List Char) : Option Timestamp := do
  let (year, text) <- readYear? text
  let text <- readMark? '-' text
  let (month, text) <- readNumeral? 2 text
  let text <- readMark? '-' text
  let (day, text) <- readNumeral? 2 text
  let text <- readDivider? text
  let (hour, text) <- readNumeral? 2 text
  let text <- readMark? ':' text
  let (minute, text) <- readNumeral? 2 text
  let text <- readMark? ':' text
  let (second, text) <- readNumeral? 2 text
  let text <- skipFraction? text
  let (ahead, text) <- readOffset? (skipBlanks text)
  if !(skipBlanks text).isEmpty then none
  else
    let date <- Date.of? year month day
    let t <- of? date hour minute second
    t.universal? ahead

def ofText? (text : String) : Option Timestamp :=
  ofChars? text.toList

/-!
## Writing
-/

/-- A numeral padded with zeros to a width. -/
def padded (width n : Nat) : String :=
  let digits := Nat.toDigits 10 n
  String.ofList (List.replicate (width - digits.length) '0' ++ digits)

/-- Years beyond four digits have a sign. -/
def yearText (year : Int) : String :=
  if year < 0 then "-" ++ padded 4 year.natAbs
  else if 9999 < year then "+" ++ padded 4 year.natAbs
  else padded 4 year.natAbs

def text (t : Timestamp) : String :=
  yearText t.date.year ++ "-" ++ padded 2 t.date.month ++ "-" ++ padded 2 t.date.day ++
    "T" ++ padded 2 t.hour ++ ":" ++ padded 2 t.minute ++ ":" ++ padded 2 t.second ++ "Z"

end Timestamp

end PodIsolation
