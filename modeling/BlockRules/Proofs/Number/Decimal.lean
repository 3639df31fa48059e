import BlockRules.Number.Literal
import BlockRules.Number.Shortest
import BlockRules.Proofs.Number.Range

set_option autoImplicit false

namespace BlockRules

namespace Number

theorem twoPow_le_tenPow (n : Nat) : twoPow (3 * n) ≤ tenPow n := by
  have h : twoPow (3 * n) = Nat.pow 8 n := Nat.pow_mul 2 3 n
  rw [h]
  exact Nat.pow_le_pow_left (by decide) n

end Number

namespace Magnitude
open Binary64 Number

theorem nearest_of_lt_half {p q : Nat} (h : 2 * p < q) : nearest p q = some zero := by
  have hdiv : p / q = 0 := Nat.div_eq_of_lt (by omega)
  have hmod : p % q = p := Nat.mod_eq_of_lt (by omega)
  have hspacing : spacing 0 = 1 := rfl
  have hsteps : nearestSteps p q = 0 := by
    rw [nearestSteps, hdiv, hspacing, Nat.mul_one, Nat.mul_one, roundHalfEven, hdiv, hmod, if_pos (.inl h)]
  have hlt : nearestSteps p q < limit := by
    rw [hsteps]
    exact limit_pos
  rw [nearest, dif_pos hlt, Option.some.injEq]
  exact Magnitude.ext hsteps

end Magnitude

namespace Binary64
open Number Magnitude

theorem ofQuotient_eq_elim (negative : Bool) (p q : Nat) :
    ofQuotient negative p q = (nearest (p * one) q).elim (infinite negative) (finite negative) := by
  -- Unfolded under the binders: a match on the number itself would be computed.
  have h : ofQuotient = fun negative p q => (nearest (p * one) q).elim (infinite negative) (finite negative) := by
    delta ofQuotient
    funext negative p q
    cases nearest (p * one) q <;> rfl
  rw [h]

theorem isNan_ofQuotient (negative : Bool) (p q : Nat) : (ofQuotient negative p q).isNan = false := by
  rw [ofQuotient_eq_elim]
  generalize nearest (p * one) q = m
  cases m <;> rfl

theorem ofQuotient_of_lt_half {negative : Bool} {p q : Nat} (h : 2 * (p * one) < q) :
    ofQuotient negative p q = finite negative .zero := by
  rw [ofQuotient_eq_elim, nearest_of_lt_half h, Option.elim_some]

theorem ofQuotient_of_limit_le {negative : Bool} {p : Nat} (h : limit ≤ p * one) :
    ofQuotient negative p 1 = infinite negative := by
  have hnone : nearest (p * one) 1 = none := by
    rw [nearest_eq_none_iff Nat.one_pos, Nat.mul_one]
    exact Nat.le_trans (Nat.sub_le _ _) h
  rw [ofQuotient_eq_elim, hnone, Option.elim_none]

theorem limit_le_decimal {digits e : Nat} (hdigits : digits ≠ 0) (he : 400 < e) :
    limit ≤ digits * tenPow e * one := by
  have htop : topExponent ≤ 3 * e := Nat.le_trans (by decide : topExponent ≤ 3 * 400) (by omega)
  have hpower : twoPow topExponent ≤ tenPow e := Nat.le_trans (twoPow_le htop) (twoPow_le_tenPow e)
  have hdecimal : tenPow e ≤ digits * tenPow e := Nat.le_mul_of_pos_left _ (Nat.pos_of_ne_zero hdigits)
  rw [limit, twoPow_add, ← one]
  exact Nat.mul_le_mul_right one (Nat.le_trans hpower hdecimal)

theorem decimal_lt_half {digits e : Nat} (h : digits.log2 + 1200 < 3 * e) :
    2 * (digits * one) < tenPow (e + 1) := by
  have hdigits : 2 * digits < twoPow (digits.log2 + 1 + 1) := by
    have := lt_twoPow_log2_succ digits
    rw [twoPow_succ]
    omega
  have hexponent : digits.log2 + 1 + 1 + stepExponent ≤ 3 * (e + 1) := by
    have : stepExponent ≤ 1100 := by decide
    omega
  calc 2 * (digits * one)
      = 2 * digits * one := (Nat.mul_assoc _ _ _).symm
    _ < twoPow (digits.log2 + 1 + 1) * one := Nat.mul_lt_mul_of_pos_right hdigits one_pos
    _ = twoPow (digits.log2 + 1 + 1 + stepExponent) := (twoPow_add _ _).symm
    _ ≤ twoPow (3 * (e + 1)) := twoPow_le hexponent
    _ ≤ tenPow (e + 1) := twoPow_le_tenPow (e + 1)

/-- A decimal is read as the number nearest to the quotient that it is. -/
theorem ofDecimal_eq_ofQuotient (negative : Bool) (digits : Nat) (exponent : Int) :
    ofDecimal negative digits exponent =
      ofQuotient negative (digits * (powerOfTen exponent).1) (powerOfTen exponent).2 := by
  unfold ofDecimal
  split
  · rename_i hzero
    have hpos : 0 < (powerOfTen exponent).2 := by
      cases exponent with
      | ofNat e => exact Nat.one_pos
      | negSucc e => exact tenPow_pos (e + 1)
    rw [hzero, Nat.zero_mul, ofQuotient_of_lt_half (by rwa [Nat.zero_mul])]
  · rename_i hdigits
    cases exponent with
    | ofNat e =>
      change (if 400 < e then _ else _) = ofQuotient negative (digits * tenPow e) 1
      split
      · exact (ofQuotient_of_limit_le (limit_le_decimal hdigits ‹_›)).symm
      · rfl
    | negSucc e =>
      change (if digits.log2 + 1200 < 3 * e then _ else _) = ofQuotient negative (digits * 1) (tenPow (e + 1))
      rw [Nat.mul_one]
      split
      · exact (ofQuotient_of_lt_half (decimal_lt_half ‹_›)).symm
      · rfl

end Binary64

namespace Number.Literal
open Magnitude Text

/-- What a literal writes apart from its sign, as a quotient. -/
def quotient (l : Literal) : Nat × Nat :=
  let power := powerOfTen (l.exponent - l.fraction.length)
  (digitsValue (l.whole ++ l.fraction) * power.1, power.2)

theorem value_eq_ofQuotient (l : Literal) : l.value = .ofQuotient l.negative l.quotient.1 l.quotient.2 :=
  Binary64.ofDecimal_eq_ofQuotient _ _ _

end Number.Literal

end BlockRules
