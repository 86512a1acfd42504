import OrderDesk.Time.Date
import OrderDesk.Text.Blank
import OrderDesk.Text.Digits

/-!
# Instants

A moment of universal time, to the nanosecond. A leap second belongs to the second
before it, with `10 ^ 9` or more nanoseconds.

The text of an instant follows RFC 3339. It is written in universal time with a `Z`
and with 0, 3, 6 or 9 digits of a second. Reading is more generous: any offset below
a day, a blank or a small `t` between date and time, blanks around the parts, signed
years and more than nine digits.
-/

namespace OrderDesk

open OrderDesk.Text

/-- A moment of universal time. -/
structure Instant where
  /-- Whole seconds since the start of 1970. -/
  second : Int
  /-- Nanoseconds after that, below `2 * 10 ^ 9`. -/
  nano : Nat
  deriving DecidableEq, Repr

namespace Instant

/-- The first instant is earlier. -/
def isBefore (a b : Instant) : Bool :=
  a.second < b.second || (a.second == b.second && a.nano < b.nano)

/-- The first instant is not later. -/
def isAtMost (a b : Instant) : Bool := !b.isBefore a

theorem isAtMost_iff {a b : Instant} :
    a.isAtMost b = true ↔ a.second < b.second ∨ a.second = b.second ∧ a.nano ≤ b.nano := by
  simp only [isAtMost, isBefore, Bool.not_eq_true', Bool.or_eq_false_iff, Bool.and_eq_false_iff,
    decide_eq_false_iff_not, beq_eq_false_iff_ne, ne_eq]
  omega

theorem isAtMost_trans {a b c : Instant} (h : a.isAtMost b = true) (h' : b.isAtMost c = true) :
    a.isAtMost c = true := by
  rw [isAtMost_iff] at h h' ⊢
  omega

theorem isAtMost_total (a b : Instant) : a.isAtMost b = true ∨ b.isAtMost a = true := by
  simp only [isAtMost_iff]
  omega

/-- The first second of the calendar. -/
def firstSecond : Int := Date.toDays ⟨Date.firstYear, 1, 1⟩ * 86400

/-- The last second of the calendar. -/
def lastSecond : Int := (Date.toDays ⟨Date.lastYear, 12, 31⟩ + 1) * 86400 - 1

/-- The instant some seconds later, if the calendar has it. -/
def after? (t : Instant) (seconds : Int) : Option Instant :=
  let second := t.second + seconds
  if firstSecond ≤ second ∧ second ≤ lastSecond then some ⟨second, t.nano⟩ else none

/-! ### Writing -/

/-- The digits of a year. Years outside of 0 to 9999 have a sign. -/
def yearChars (year : Int) : List Char :=
  if 0 ≤ year ∧ year ≤ 9999 then digitsPadded 4 year.toNat
  else (if year < 0 then '-' else '+') :: digitsPadded 4 year.natAbs

/-- The digits of a fraction of a second, by threes, with the point. -/
def fractionChars (nano : Nat) : List Char :=
  if nano = 0 then []
  else if nano % 1000000 = 0 then '.' :: digitsPadded 3 (nano / 1000000)
  else if nano % 1000 = 0 then '.' :: digitsPadded 6 (nano / 1000)
  else '.' :: digitsPadded 9 nano

/-- The characters of an instant. -/
def chars (t : Instant) : List Char :=
  let date := Date.ofDays (t.second / 86400)
  let ofDay := (t.second % 86400).toNat
  let leap := 1000000000 ≤ t.nano
  let second := ofDay % 60 + if leap then 1 else 0
  let nano := if leap then t.nano - 1000000000 else t.nano
  yearChars date.year ++ '-' :: digitsPadded 2 date.month ++ '-' :: digitsPadded 2 date.day ++
    'T' :: digitsPadded 2 (ofDay / 3600) ++ ':' :: digitsPadded 2 (ofDay / 60 % 60) ++
    ':' :: digitsPadded 2 second ++ fractionChars nano ++ ['Z']

/-- The text of an instant. -/
def text (t : Instant) : String := String.ofList t.chars

/-! ### Reading -/

/-- Reads at least one and at most `most` digits. -/
def readDigits (most : Nat) (cs : List Char) : Option (Nat × List Char) :=
  let digits := (cs.take most).takeWhile Char.isDigit
  if digits.isEmpty then none else some (natOfDigits digits, cs.drop digits.length)

/-- Reads a part of the date or the time, after blanks. -/
def readPart (cs : List Char) : Option (Nat × List Char) := readDigits 2 (trimStart cs)

/-- Reads a year, after blanks: four digits at most, or any number after a sign. -/
def readYear (cs : List Char) : Option (Int × List Char) :=
  match trimStart cs with
  | '-' :: rest => (readDigits rest.length rest).map fun (n, rest) => (-(n : Int), rest)
  | '+' :: rest => (readDigits rest.length rest).map fun (n, rest) => ((n : Int), rest)
  | rest => (readDigits 4 rest).map fun (n, rest) => ((n : Int), rest)

/-- Reads a mark between two parts, after blanks. -/
def readMark (mark : Char) (cs : List Char) : Option (List Char) :=
  match trimStart cs with
  | c :: rest => if c = mark then some rest else none
  | [] => none

/-- Reads a date. -/
def readDate (cs : List Char) : Option (Date × List Char) := do
  let (year, cs) ← readYear cs
  let cs ← readMark '-' cs
  let (month, cs) ← readPart cs
  let cs ← readMark '-' cs
  let (day, cs) ← readPart cs
  let date : Date := ⟨year, month, day⟩
  if date.isValid then some (date, cs) else none

/-- Reads a fraction of a second, if there is one, in nanoseconds. Digits after the
ninth are skipped. -/
def readFraction : List Char → Option (Nat × List Char)
  | '.' :: rest =>
    let digits := rest.takeWhile Char.isDigit
    let kept := digits.take 9
    if kept.isEmpty then none
    else some (natOfDigits kept * Nat.pow 10 (9 - kept.length), rest.drop digits.length)
  | cs => some (0, cs)

/-- Reads the time of a day, as its second and nanoseconds. -/
def readTime (cs : List Char) : Option (Nat × Nat × List Char) := do
  let (hour, cs) ← readPart cs
  let cs ← readMark ':' cs
  let (minute, cs) ← readPart cs
  let cs ← readMark ':' cs
  let (second, cs) ← readPart cs
  let (nano, cs) ← readFraction cs
  if hour < 24 ∧ minute < 60 ∧ second < 60 then
    some (hour * 3600 + minute * 60 + second, nano, trimStart cs)
  else if hour < 24 ∧ minute < 60 ∧ second = 60 then
    some (hour * 3600 + minute * 60 + 59, nano + 1000000000, trimStart cs)
  else none

/-- Reads the size of an offset, in seconds. Colons and blanks may stand between the
hours and the minutes. -/
def readOffsetSize (cs : List Char) : Option (Nat × List Char) :=
  match cs with
  | h :: h' :: rest =>
    if h.isDigit && h'.isDigit then
      match rest.dropWhile fun c => c == ':' || isBlank c with
      | m :: m' :: rest =>
        let minutes := natOfDigits [m, m']
        if m.isDigit && m'.isDigit && minutes < 60 then
          some (natOfDigits [h, h'] * 3600 + minutes * 60, rest)
        else none
      | _ => none
    else none
  | _ => none

/-- Reads the offset from universal time, in seconds. -/
def readOffset : List Char → Option (Int × List Char)
  | 'Z' :: rest | 'z' :: rest => some (0, rest)
  | '+' :: rest => (readOffsetSize rest).map fun (n, rest) => ((n : Int), rest)
  | '-' :: rest | '−' :: rest => (readOffsetSize rest).map fun (n, rest) => (-(n : Int), rest)
  | u :: t :: c :: rest =>
    if u.toUpper = 'U' ∧ t.toUpper = 'T' ∧ c.toUpper = 'C' then some (0, rest) else none
  | _ => none

/-- Reads an instant. -/
def ofChars? (cs : List Char) : Option Instant := do
  let (date, cs) ← readDate cs
  let cs ← match cs with
    | 'T' :: rest | 't' :: rest | ' ' :: rest => some rest
    | _ => none
  let (ofDay, nano, cs) ← readTime cs
  let (offset, cs) ← readOffset cs
  let second := date.toDays * 86400 + ofDay - offset
  if (trimStart cs).isEmpty && decide (offset.natAbs < 86400) && decide (firstSecond ≤ second) &&
      decide (second ≤ lastSecond) then
    some ⟨second, nano⟩
  else none

/-- Reads the text of an instant. -/
def ofText? (s : String) : Option Instant := ofChars? s.toList

end Instant

end OrderDesk
