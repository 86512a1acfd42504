import OrderDesk.Time.Instant

/-!
# Delays

Spans of time to the nanosecond, none of them negative. The text of a span follows ISO 8601: seconds,
with as many digits of a fraction as there are up to the last that is not zero.
-/

namespace OrderDesk

open OrderDesk.Text

/-- A span of time. -/
structure Delay where
  seconds : Nat
  /-- Nanoseconds after that. -/
  nanos : Fin 1000000000
  deriving DecidableEq

namespace Delay

/-- A span of whole seconds. -/
def ofSeconds (seconds : Nat) : Delay := ⟨seconds, 0⟩

/-- The longest span that can be counted with: as many milliseconds as fit in 64 bits with a sign. -/
def longest : Delay := ⟨9223372036854775, 807000000⟩

/-- The span is longer than another. -/
def isLongerThan (a b : Delay) : Bool :=
  b.seconds < a.seconds || (a.seconds == b.seconds && b.nanos < a.nanos)

theorem isLongerThan_iff {a b : Delay} : a.isLongerThan b = true ↔
    b.seconds < a.seconds ∨ a.seconds = b.seconds ∧ b.nanos < a.nanos := by
  simp [isLongerThan]

/-- The digits of the fraction of a second, with the point. -/
def fractionChars (delay : Delay) : List Char :=
  if delay.nanos = 0 then []
  else '.' :: ((digitsPadded 9 delay.nanos).reverse.dropWhile (· == '0')).reverse

/-- The text of a span. -/
def text (delay : Delay) : String :=
  String.ofList ('P' :: 'T' :: digitsOfNat delay.seconds ++ delay.fractionChars ++ ['S'])

end Delay

/-- The instant some time later, if the calendar has it. The nanoseconds may fill a second, except
within a leap second, which no clock shows. -/
def Instant.later? (t : Instant) (delay : Delay) : Option Instant :=
  let nano := t.nano + delay.nanos
  if t.nano < 1000000000 ∧ 1000000000 ≤ nano then
    (t.after? (delay.seconds + 1)).map fun u => { u with nano := nano - 1000000000 }
  else (t.after? delay.seconds).map fun u => { u with nano }

/-- A delay of whole seconds leads to the instant so many seconds later. -/
theorem Instant.later?_ofSeconds (t : Instant) (seconds : Nat) :
    t.later? (.ofSeconds seconds) = t.after? seconds := by
  have hstays : ¬(t.nano < 1000000000 ∧ 1000000000 ≤ t.nano + 0) := by omega
  refine (if_neg hstays).trans ?_
  show (t.after? seconds).map (fun u => { u with nano := t.nano + 0 }) = t.after? seconds
  simp only [after?]
  split <;> rfl

end OrderDesk
