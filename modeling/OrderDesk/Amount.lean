/-!
# Amounts

Money is counted in whole minor units, and amounts, quantities and counters are
whole numbers of 64 bits with a sign. They are kept here as integers; an
operation that could leave the range says so.

`add` and `sub` stop the program when the result does not fit (`Overflow`),
`mul?` refuses, and `addClamped` goes to the nearest end of the range.
-/

namespace OrderDesk

/-- An amount of money in minor units, a quantity or a counter. -/
abbrev Amount := Int

/-- Number of a user account. -/
abbrev UserId := Nat

/-- Number of a subscription plan. -/
abbrev PlanId := Nat

/-- Number of a payment method. -/
abbrev PaymentId := Nat

/-- Number of a subscription that a user holds. -/
abbrev SubscriptionId := Nat

/-- The number under which an order is stored. -/
abbrev OrderNo := String

/-- The operation whose result did not fit in 64 bits; the work at hand stops there. -/
inductive Overflow
  | addition
  | subtraction
  deriving DecidableEq, Repr

/-- What the program says when it stops. -/
def Overflow.message : Overflow → String
  | .addition => "attempt to add with overflow"
  | .subtraction => "attempt to subtract with overflow"

namespace Amount

/-- The least amount. -/
def least : Amount := -9223372036854775808

/-- The greatest amount. -/
def greatest : Amount := 9223372036854775807

/-- The integer fits in 64 bits with a sign. -/
def Fits (n : Int) : Prop := least ≤ n ∧ n ≤ greatest

instance (n : Int) : Decidable (Fits n) := inferInstanceAs (Decidable (_ ∧ _))

/-- The sum, if it fits. -/
def add (a b : Amount) : Except Overflow Amount :=
  if Fits (a + b) then .ok (a + b) else .error .addition

/-- The difference, if it fits. -/
def sub (a b : Amount) : Except Overflow Amount :=
  if Fits (a - b) then .ok (a - b) else .error .subtraction

/-- The product, if it fits. -/
def mul? (a b : Amount) : Option Amount :=
  if Fits (a * b) then some (a * b) else none

/-- The integer itself, if it fits. -/
def ofInt? (n : Int) : Option Amount := if Fits n then some n else none

/-- The sum, or the end of the range nearest to it. -/
def addClamped (a b : Amount) : Amount := max least (min greatest (a + b))

theorem add_eq_ok_iff {a b c : Amount} : add a b = .ok c ↔ Fits (a + b) ∧ c = a + b := by
  unfold add; split <;> simp_all [eq_comm]

theorem sub_eq_ok_iff {a b c : Amount} : sub a b = .ok c ↔ Fits (a - b) ∧ c = a - b := by
  unfold sub; split <;> simp_all [eq_comm]

theorem mul?_eq_some_iff {a b c : Amount} : mul? a b = some c ↔ Fits (a * b) ∧ c = a * b := by
  unfold mul?; split <;> simp_all [eq_comm]

end Amount

/-- One past the greatest number that names a record. -/
def idLimit : Nat := 18446744073709551616

end OrderDesk
