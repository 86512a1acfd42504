/-!
# Calendar dates

Dates of the Gregorian calendar, extended to all years with a year zero, and their
numbers: the day `0` is the first of January 1970.
-/

namespace OrderDesk

/-- A day of the calendar. -/
structure Date where
  year : Int
  month : Nat
  day : Nat
  deriving DecidableEq, Repr

namespace Date

/-- The year has 366 days. -/
def isLeap (year : Int) : Bool := year % 4 == 0 && (year % 100 != 0 || year % 400 == 0)

/-- One day in a leap year, none in another. -/
def leapDay (year : Int) : Nat := if isLeap year then 1 else 0

/-- The days from the start of the year zero to the start of a year. -/
def daysBeforeYear (year : Int) : Int :=
  365 * year + (year + 3) / 4 - (year + 99) / 100 + (year + 399) / 400

/-- The days of a year before a month. -/
def daysBeforeMonth (year : Int) : Nat → Nat
  | 1 => 0
  | 2 => 31
  | 3 => 59 + leapDay year
  | 4 => 90 + leapDay year
  | 5 => 120 + leapDay year
  | 6 => 151 + leapDay year
  | 7 => 181 + leapDay year
  | 8 => 212 + leapDay year
  | 9 => 243 + leapDay year
  | 10 => 273 + leapDay year
  | 11 => 304 + leapDay year
  | 12 => 334 + leapDay year
  | _ => 365 + leapDay year

/-- The month in which a day of the year lies, the first day being `0`. -/
def monthOf (year : Int) (dayOfYear : Nat) : Nat :=
  let l := leapDay year
  if dayOfYear < 31 then 1
  else if dayOfYear < 59 + l then 2
  else if dayOfYear < 90 + l then 3
  else if dayOfYear < 120 + l then 4
  else if dayOfYear < 151 + l then 5
  else if dayOfYear < 181 + l then 6
  else if dayOfYear < 212 + l then 7
  else if dayOfYear < 243 + l then 8
  else if dayOfYear < 273 + l then 9
  else if dayOfYear < 304 + l then 10
  else if dayOfYear < 334 + l then 11
  else 12

/-- The days from the start of the year zero to the day `0`. -/
def epoch : Int := 719528

/-- The number of a date. -/
def toDays (d : Date) : Int :=
  daysBeforeYear d.year + daysBeforeMonth d.year d.month + (d.day - 1 : Int) - epoch

/-- The year in which a day lies, counted from the start of the year zero. -/
def yearOf (days : Int) : Int :=
  let guess := 400 * days / 146097
  if days < daysBeforeYear guess then guess - 1
  else if days < daysBeforeYear (guess + 1) then guess
  else guess + 1

/-- The date with a number. -/
def ofDays (days : Int) : Date :=
  let days := days + epoch
  let year := yearOf days
  let dayOfYear := (days - daysBeforeYear year).toNat
  let month := monthOf year dayOfYear
  ⟨year, month, dayOfYear - daysBeforeMonth year month + 1⟩

/-- The first year of the calendar in use. -/
def firstYear : Int := -262143

/-- The last year of the calendar in use. -/
def lastYear : Int := 262142

/-- The month and the day exist, and the year is in use. -/
def isValid (d : Date) : Bool :=
  firstYear ≤ d.year && d.year ≤ lastYear && 1 ≤ d.month && d.month ≤ 12 && 1 ≤ d.day &&
    daysBeforeMonth d.year d.month + d.day ≤ daysBeforeMonth d.year (d.month + 1)

theorem yearOf_spec (days : Int) :
    daysBeforeYear (yearOf days) ≤ days ∧ days < daysBeforeYear (yearOf days + 1) := by
  unfold yearOf
  simp only
  split
  · rename_i h
    rw [Int.sub_add_cancel]
    refine ⟨?_, h⟩
    unfold daysBeforeYear; omega
  · rename_i h
    split
    · rename_i h'
      exact ⟨by omega, h'⟩
    · rename_i h'
      refine ⟨by omega, ?_⟩
      unfold daysBeforeYear; omega

theorem daysBeforeMonth_monthOf (year : Int) (n : Nat) :
    daysBeforeMonth year (monthOf year n) ≤ n := by
  fun_cases monthOf year n
  all_goals
    simp only [daysBeforeMonth]
    omega

/-- Every day has a date, and the date has the number of the day. -/
theorem toDays_ofDays (days : Int) : toDays (ofDays days) = days := by
  have hy := yearOf_spec (days + epoch)
  have hm := daysBeforeMonth_monthOf (yearOf (days + epoch))
    ((days + epoch) - daysBeforeYear (yearOf (days + epoch))).toNat
  unfold toDays ofDays
  simp only
  omega

end Date

end OrderDesk
