set_option autoImplicit false

namespace BlockRules.Number

/-- The whole number nearest to `p / q`; a half goes to the even neighbour. -/
def roundHalfEven (p q : Nat) : Nat :=
  if 2 * (p % q) < q ∨ (2 * (p % q) = q ∧ p / q % 2 = 0) then p / q else p / q + 1

theorem roundHalfEven_le (p q : Nat) : roundHalfEven p q ≤ p / q + 1 := by
  unfold roundHalfEven
  split <;> omega

theorem div_le_roundHalfEven (p q : Nat) : p / q ≤ roundHalfEven p q := by
  unfold roundHalfEven
  split <;> omega

theorem two_mul_roundHalfEven_le (p q : Nat) (hq : 0 < q) :
    2 * (q * roundHalfEven p q) ≤ 2 * p + q := by
  have h := Nat.div_add_mod p q
  have hr := Nat.mod_lt p hq
  unfold roundHalfEven
  split
  · omega
  · rw [Nat.mul_add]
    omega

theorem le_two_mul_roundHalfEven (p q : Nat) (hq : 0 < q) :
    2 * p ≤ 2 * (q * roundHalfEven p q) + q := by
  have h := Nat.div_add_mod p q
  have hr := Nat.mod_lt p hq
  unfold roundHalfEven
  split
  · omega
  · rw [Nat.mul_add]
    omega

theorem roundHalfEven_mul (n q : Nat) (hq : 0 < q) : roundHalfEven (n * q) q = n := by
  unfold roundHalfEven
  simp [Nat.mul_div_cancel _ hq, hq]

end BlockRules.Number
