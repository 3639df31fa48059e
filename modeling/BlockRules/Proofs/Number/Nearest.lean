import BlockRules.Proofs.Number.Decimal
import Mathlib.Algebra.Order.Field.Basic
import Mathlib.Algebra.Order.Field.Rat
import Mathlib.Data.Nat.Log
import Mathlib.Tactic.Linarith
import Mathlib.Tactic.NormNum

set_option autoImplicit false

namespace BlockRules

namespace Number

/-- The integer nearest to a number, the even one of two that are equally near. -/
structure IsNearest (n : Int) (x : ℚ) : Prop where
  near : |(n : ℚ) - x| ≤ 1 / 2
  even : |(n : ℚ) - x| = 1 / 2 → n % 2 = 0

theorem IsNearest.mono {m n : Int} {x y : ℚ} (hm : IsNearest m x) (hn : IsNearest n y) (h : x ≤ y) : m ≤ n := by
  by_contra hlt
  have hstep : (n : ℚ) + 1 ≤ m := by exact_mod_cast Int.lt_iff_add_one_le.1 (not_le.1 hlt)
  have hmnear := abs_le.1 hm.near
  have hnnear := abs_le.1 hn.near
  -- The two are neighbours and the numbers are halfway between them, so that both would be even.
  have hmtie : (m : ℚ) - x = 1 / 2 := by linarith
  have hntie : (n : ℚ) - y = -(1 / 2) := by linarith
  have hmeven := hm.even (by rw [hmtie, abs_of_nonneg (by norm_num)])
  have hneven := hn.even (by rw [hntie, abs_neg, abs_of_nonneg (by norm_num)])
  have hnext : m = n + 1 := by
    have : (m : ℚ) = n + 1 := by linarith
    exact_mod_cast this
  omega

theorem IsNearest.unique {m n : Int} {x : ℚ} (hm : IsNearest m x) (hn : IsNearest n x) : m = n :=
  le_antisymm (hm.mono hn le_rfl) (hn.mono hm le_rfl)

variable {p p' q : Nat}

theorem isNearest_roundHalfEven (p : Nat) (hq : 0 < q) : IsNearest (roundHalfEven p q) ((p : ℚ) / q) := by
  have hpos : (0 : ℚ) < q := Nat.cast_pos.2 hq
  have habove : 2 * ((q : ℚ) * roundHalfEven p q) ≤ 2 * p + q := by exact_mod_cast two_mul_roundHalfEven_le p q hq
  have hbelow : 2 * (p : ℚ) ≤ 2 * (q * roundHalfEven p q) + q := by exact_mod_cast le_two_mul_roundHalfEven p q hq
  have hscale : (roundHalfEven p q : ℚ) - p / q = (q * roundHalfEven p q - p) / q := by
    rw [sub_div, mul_div_cancel_left₀ _ hpos.ne']
  refine ⟨?_, fun htie => ?_⟩
  · rw [Int.cast_natCast, hscale, abs_div, abs_of_pos hpos, div_le_iff₀ hpos, abs_le]
    constructor <;> linarith
  · rw [Int.cast_natCast, hscale, abs_div, abs_of_pos hpos, div_eq_iff hpos.ne'] at htie
    suffices heven : roundHalfEven p q % 2 = 0 by exact_mod_cast heven
    obtain htie | htie := eq_or_eq_neg_of_abs_eq htie
    · have htie : 2 * ((q : ℚ) * roundHalfEven p q) = 2 * p + q := by linarith
      exact roundHalfEven_even_of_tie hq (.inr (by exact_mod_cast htie))
    · have htie : 2 * (p : ℚ) = 2 * (q * roundHalfEven p q) + q := by linarith
      exact roundHalfEven_even_of_tie hq (.inl (by exact_mod_cast htie))

theorem roundHalfEven_mono (hq : 0 < q) (h : p ≤ p') : roundHalfEven p q ≤ roundHalfEven p' q := by
  have hquotient : (p : ℚ) / q ≤ p' / q := div_le_div_of_nonneg_right (Nat.cast_le.2 h) (Nat.cast_nonneg q)
  exact Int.ofNat_le.1 ((isNearest_roundHalfEven p hq).mono (isNearest_roundHalfEven p' hq) hquotient)

/-- The quotient alone decides. -/
theorem roundHalfEven_mul_mul {c : Nat} (hq : 0 < q) (hc : 0 < c) :
    roundHalfEven (p * c) (q * c) = roundHalfEven p q := by
  have hquotient : ((p * c : Nat) : ℚ) / (q * c : Nat) = p / q := by
    rw [Nat.cast_mul, Nat.cast_mul, mul_div_mul_right _ _ (Nat.cast_ne_zero.2 hc.ne')]
  have hnearest := isNearest_roundHalfEven (p * c) (Nat.mul_pos hq hc)
  rw [hquotient] at hnearest
  exact Int.ofNat_inj.1 (hnearest.unique (isNearest_roundHalfEven p hq))

end Number

namespace Magnitude
open Binary64 Number

variable {p p' q : Nat}

theorem nearestSteps_mul_mul {c : Nat} (hq : 0 < q) (hc : 0 < c) : nearestSteps (p * c) (q * c) = nearestSteps p q := by
  rw [nearestSteps, nearestSteps, Nat.mul_div_mul_right _ _ hc, Nat.mul_right_comm]
  rw [roundHalfEven_mul_mul (Nat.mul_pos hq (spacing_pos _)) hc]

theorem nearest_steps_mul (m : Magnitude) (hq : 0 < q) : nearest (m.steps * q) q = some m := by
  have hsteps : nearestSteps (m.steps * q) q = m.steps := by
    have h := nearestSteps_mul_mul (p := m.steps) Nat.one_pos hq
    rwa [Nat.one_mul, ← nearest_eq_some (nearest_steps m)] at h
  have hlt : nearestSteps (m.steps * q) q < limit := by
    rw [hsteps]
    exact m.bounded
  rw [nearest, dif_pos hlt, Option.some.injEq]
  exact Magnitude.ext hsteps

theorem two_mul_nearestSteps_le (p : Nat) (hq : 0 < q) :
    2 * (q * nearestSteps p q) ≤ 2 * p + q * spacing (p / q) := by
  have h := two_mul_roundHalfEven_le p (q * spacing (p / q)) (Nat.mul_pos hq (spacing_pos _))
  rwa [Nat.mul_assoc q, Nat.mul_comm (spacing _), ← nearestSteps] at h

theorem le_two_mul_nearestSteps (p : Nat) (hq : 0 < q) :
    2 * p ≤ 2 * (q * nearestSteps p q) + q * spacing (p / q) := by
  have h := le_two_mul_roundHalfEven p (q * spacing (p / q)) (Nat.mul_pos hq (spacing_pos _))
  rwa [Nat.mul_assoc q, Nat.mul_comm (spacing _), ← nearestSteps] at h

theorem nearestSteps_le_spacing (p q : Nat) : nearestSteps p q ≤ twoPow 53 * spacing (p / q) := by
  have hround := roundHalfEven_le p (q * spacing (p / q))
  have hlt := div_spacing_lt (p / q)
  rw [← Nat.div_div_eq_div_mul] at hround
  exact Nat.mul_le_mul_right _ (by omega)

theorem nearestSteps_mono (hq : 0 < q) (h : p ≤ p') : nearestSteps p q ≤ nearestSteps p' q := by
  have hdiv : p / q ≤ p' / q := Nat.div_le_div_right h
  have hlog : (p / q).log2 ≤ (p' / q).log2 := by
    rw [Nat.log2_eq_log_two, Nat.log2_eq_log_two]
    exact Nat.log_mono_right hdiv
  obtain hsame | hmore := Nat.eq_or_lt_of_le (Nat.sub_le_sub_right hlog 52)
  · have hspacing : spacing (p / q) = spacing (p' / q) := congrArg twoPow hsame
    rw [nearestSteps, nearestSteps, hspacing]
    exact Nat.mul_le_mul_right _ (roundHalfEven_mono (Nat.mul_pos hq (spacing_pos _)) h)
  -- Where the spacing grows, a power of two stands between the two.
  · have hne : p' / q ≠ 0 := by
      intro hzero
      rw [hzero] at hmore
      exact absurd hmore (by simp)
    calc nearestSteps p q
        ≤ twoPow 53 * spacing (p / q) := nearestSteps_le_spacing p q
      _ = twoPow (53 + ((p / q).log2 - 52)) := (twoPow_add 53 _).symm
      _ ≤ nearestSteps p' q :=
        twoPow_le_nearestSteps (by omega) (Nat.le_trans (twoPow_le (by omega)) (Nat.log2_self_le hne))

theorem spacing_of_lt {a : Nat} (hq : 0 < q) (h : a < twoPow 24 * q) : spacing (a * one / q) ≤ twoPow 1045 := by
  have hpower : twoPow (1045 + 53) = twoPow 24 * one := by
    rw [one, ← twoPow_add]
    exact congrArg twoPow (by decide)
  apply spacing_le
  rw [Nat.div_lt_iff_lt_mul hq, hpower, Nat.mul_right_comm]
  exact Nat.mul_lt_mul_of_pos_right h Binary64.one_pos

theorem nearestSteps_lt_limit {a : Nat} (hq : 0 < q) (h : a < twoPow 24 * q) : nearestSteps (a * one) q < limit := by
  rw [limit_eq]
  calc nearestSteps (a * one) q
      ≤ twoPow 53 * spacing (a * one / q) := nearestSteps_le_spacing _ _
    _ ≤ twoPow 53 * twoPow 1045 := Nat.mul_le_mul_left _ (spacing_of_lt hq h)
    _ = twoPow (53 + 1045) := (twoPow_add 53 1045).symm
    _ < twoPow 2098 := twoPow_lt (by decide)

/-- Up to `2 ^ 23`, quotients by less than `2 ^ 29` are more than a spacing apart and are not rounded to one number. -/
theorem nearestSteps_lt {a b : Nat} (hq : 0 < q) (hfew : q < twoPow 29) (ha : a ≤ twoPow 23 * q) (h : a < b) :
    nearestSteps (a * one) q < nearestSteps (b * one) q := by
  have hnext : a + 1 < twoPow 24 * q := by
    have hdouble : twoPow 24 * q = twoPow 23 * q + twoPow 23 * q := by
      rw [twoPow_succ 23, Nat.two_mul, Nat.add_mul]
    have hmore : 2 * q ≤ twoPow 23 * q := Nat.mul_le_mul_right q (by decide)
    omega
  have hmono : nearestSteps ((a + 1) * one) q ≤ nearestSteps (b * one) q :=
    nearestSteps_mono hq (Nat.mul_le_mul_right one h)
  refine Nat.lt_of_lt_of_le ?_ hmono
  have hbelow := two_mul_nearestSteps_le (a * one) hq
  have habove := le_two_mul_nearestSteps ((a + 1) * one) hq
  have hspacing := Nat.mul_le_mul_left q (spacing_of_lt hq (Nat.lt_trans a.lt_succ_self hnext))
  have hspacing' := Nat.mul_le_mul_left q (spacing_of_lt hq hnext)
  have hone : q * twoPow 1045 < one := by
    rw [one, stepExponent, show 1074 = 29 + 1045 from rfl, twoPow_add]
    exact Nat.mul_lt_mul_of_pos_right hfew (twoPow_pos _)
  have hstep : (a + 1) * one = a * one + one := Nat.succ_mul a one
  by_contra hle
  have hmul := Nat.mul_le_mul_left q (Nat.le_of_not_lt hle)
  omega

end Magnitude

end BlockRules
