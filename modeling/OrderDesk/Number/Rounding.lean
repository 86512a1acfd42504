/-!
# Rounding a quotient

The quotient of two natural numbers, rounded to the nearest whole number. A tie
goes to the even neighbour (`roundHalfEven`) or up (`roundHalfUp`).
-/

namespace OrderDesk.Number

/-- `n / d` rounded to the nearest whole number, a tie to the even one. -/
def roundHalfEven (n d : Nat) : Nat :=
  let q := n / d
  let r := n % d
  if d < 2 * r ∨ (2 * r = d ∧ q % 2 = 1) then q + 1 else q

theorem roundHalfEven_le (n d : Nat) : roundHalfEven n d ≤ n / d + 1 := by
  unfold roundHalfEven; simp only; split <;> omega

theorem le_roundHalfEven (n d : Nat) : n / d ≤ roundHalfEven n d := by
  unfold roundHalfEven; simp only; split <;> omega

/-- Rounding moves a value by half a unit at most. -/
theorem roundHalfEven_close {n d : Nat} (hd : 0 < d) :
    2 * n ≤ (2 * roundHalfEven n d + 1) * d ∧ 2 * roundHalfEven n d * d ≤ 2 * n + d := by
  have hn := Nat.div_add_mod n d
  have hr := Nat.mod_lt n hd
  have hc : d * (n / d) = n / d * d := Nat.mul_comm _ _
  unfold roundHalfEven
  simp only
  split
  · rename_i h
    constructor
    · rw [Nat.add_mul, Nat.mul_assoc, Nat.add_mul]; omega
    · rw [Nat.mul_assoc, Nat.add_mul]; omega
  · rename_i h
    constructor
    · rw [Nat.add_mul, Nat.mul_assoc]; omega
    · rw [Nat.mul_assoc]; omega

theorem roundHalfEven_eq_div {n d : Nat} (hd : 0 < d) (h : n % d = 0) :
    roundHalfEven n d = n / d := by
  unfold roundHalfEven
  simp only [h, Nat.mul_zero]
  split <;> omega

/-- `n / d` rounded to the nearest whole number, a tie up. -/
def roundHalfUp (n d : Nat) : Nat := (2 * n + d) / (2 * d)

/-- Rounding moves a value by half a unit at most, and by less than that down. -/
theorem roundHalfUp_close {n d : Nat} (hd : 0 < d) :
    2 * n < 2 * roundHalfUp n d * d + d ∧ 2 * roundHalfUp n d * d ≤ 2 * n + d := by
  have hn := Nat.div_add_mod (2 * n + d) (2 * d)
  have hr := Nat.mod_lt (2 * n + d) (show 0 < 2 * d by omega)
  have hc : 2 * d * roundHalfUp n d = 2 * roundHalfUp n d * d := by
    rw [Nat.mul_assoc, Nat.mul_comm d, Nat.mul_assoc]
  unfold roundHalfUp at *
  omega

end OrderDesk.Number
