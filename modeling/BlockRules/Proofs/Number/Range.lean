import BlockRules.Number.Binary64
import Mathlib.Tactic.Ring

set_option autoImplicit false

/-!
# The range of numbers

A quotient of steps has no nearest number if and only if it is at least halfway from the greatest number to the
limit: the limit would be the even one of the two. For integers that is `2 ^ 1024 - 2 ^ 970` and beyond, on either
side of zero.
-/
namespace BlockRules

namespace Number

theorem roundHalfEven_even_of_tie {p q : Nat} (hq : 0 < q)
    (h : 2 * p = 2 * (q * roundHalfEven p q) + q ∨ 2 * (q * roundHalfEven p q) = 2 * p + q) :
    roundHalfEven p q % 2 = 0 := by
  have hp := Nat.div_add_mod p q
  have hlt := Nat.mod_lt p hq
  revert h
  unfold roundHalfEven
  split
  · intro h
    omega
  · rw [Nat.mul_add]
    intro h
    omega

theorem le_roundHalfEven_iff {n p q : Nat} (hq : 0 < q) (heven : n % 2 = 0) :
    n ≤ roundHalfEven p q ↔ 2 * (q * n) ≤ 2 * p + q := by
  constructor
  · intro h
    have hle := two_mul_roundHalfEven_le p q hq
    have hmul := Nat.mul_le_mul_left q h
    omega
  · intro h
    by_contra hlt
    have hle := le_two_mul_roundHalfEven p q hq
    have hmul := Nat.mul_le_mul_left q (show roundHalfEven p q + 1 ≤ n by omega)
    rw [Nat.mul_add, Nat.mul_one] at hmul
    -- All bounds are met, so that the quotient is halfway between the rounded value and the next.
    have htie : 2 * p = 2 * (q * roundHalfEven p q) + q := by omega
    have hround := roundHalfEven_even_of_tie hq (.inl htie)
    have hnext : q * n = q * (roundHalfEven p q + 1) := by
      rw [Nat.mul_add, Nat.mul_one]
      omega
    have hn := Nat.eq_of_mul_eq_mul_left hq hnext
    omega

end Number

namespace Magnitude
open Binary64 Number

theorem nearestSteps_le (p q : Nat) : nearestSteps p q ≤ p / q + spacing (p / q) := by
  have hround := roundHalfEven_le p (q * spacing (p / q))
  rw [← Nat.div_div_eq_div_mul] at hround
  calc nearestSteps p q
      ≤ (p / q / spacing (p / q) + 1) * spacing (p / q) := Nat.mul_le_mul_right _ hround
    _ = p / q / spacing (p / q) * spacing (p / q) + spacing (p / q) := Nat.succ_mul _ _
    _ ≤ p / q + spacing (p / q) := Nat.add_le_add_right (Nat.div_mul_le_self _ _) _

theorem twoPow_le_nearestSteps {p q k : Nat} (hk : 52 ≤ k) (h : twoPow k ≤ p / q) :
    twoPow k ≤ nearestSteps p q := by
  have hne : p / q ≠ 0 := Nat.ne_of_gt (Nat.lt_of_lt_of_le (twoPow_pos k) h)
  have hlog : k ≤ (p / q).log2 := (Nat.le_log2 hne).2 h
  have hround := div_le_roundHalfEven p (q * spacing (p / q))
  rw [← Nat.div_div_eq_div_mul] at hround
  have hpow : twoPow (p / q).log2 ≤ p / q := Nat.log2_self_le hne
  -- The power of two is itself a multiple of the spacing.
  have hspaced : twoPow 52 * spacing (p / q) = twoPow (p / q).log2 := by
    rw [spacing, ← twoPow_add, Nat.add_sub_cancel' (Nat.le_trans hk hlog)]
  have hcount : twoPow 52 ≤ p / q / spacing (p / q) := by
    rw [Nat.le_div_iff_mul_le (spacing_pos _), hspaced]
    exact hpow
  calc twoPow k
      ≤ twoPow (p / q).log2 := twoPow_le hlog
    _ = twoPow 52 * spacing (p / q) := hspaced.symm
    _ ≤ nearestSteps p q := Nat.mul_le_mul_right _ (Nat.le_trans hcount hround)

theorem spacing_le {n k : Nat} (h : n < twoPow (k + 53)) : spacing n ≤ twoPow k := by
  apply twoPow_le
  by_cases hn : n = 0
  · subst hn
    exact Nat.zero_le k
  · have hlog := (log2_lt_iff hn).2 h
    omega

theorem spacing_eq {n k : Nat} (hlow : twoPow (k + 52) ≤ n) (h : n < twoPow (k + 53)) :
    spacing n = twoPow k := by
  have hn : n ≠ 0 := Nat.ne_of_gt (Nat.lt_of_lt_of_le (twoPow_pos _) hlow)
  have hlog := (log2_lt_iff hn).2 h
  have hlog' : k + 52 ≤ n.log2 := (Nat.le_log2 hn).2 hlow
  rw [spacing, show n.log2 - 52 = k by omega]

theorem halfway_iff (p q n u : Nat) :
    2 * (q * (2 * u) * n) ≤ 2 * p + q * (2 * u) ↔ (n * (2 * u) - u) * q ≤ p := by
  have hleft : q * (2 * u) * n = 2 * (n * (q * u)) := by ring
  have hwidth : q * (2 * u) = 2 * (q * u) := by ring
  have hright : (n * (2 * u) - u) * q = 2 * (n * (q * u)) - q * u := by
    rw [Nat.sub_mul]
    congr 1 <;> ring
  rw [hleft, hright, hwidth]
  omega

theorem limit_eq : limit = twoPow 2098 := rfl

/-- Rounding reaches the limit from halfway between it and the greatest magnitude on. -/
theorem limit_le_nearestSteps_iff {p q : Nat} (hq : 0 < q) :
    limit ≤ nearestSteps p q ↔ (limit - twoPow 2044) * q ≤ p := by
  have htop : limit = 2 * twoPow 2097 := limit_eq.trans (twoPow_succ 2097)
  have hgap : 2 * twoPow 2044 ≤ twoPow 2097 := by
    rw [← twoPow_succ]
    exact twoPow_le (by decide)
  by_cases hover : limit ≤ p / q
  · refine iff_of_true (twoPow_le_nearestSteps (by decide) hover) ?_
    calc (limit - twoPow 2044) * q
        ≤ p / q * q := Nat.mul_le_mul_right q (by omega)
      _ ≤ p := Nat.div_mul_le_self p q
  have hlt : p / q < twoPow (2045 + 53) := Nat.lt_of_not_le hover
  by_cases hlow : p / q < twoPow (2044 + 53)
  · have hspacing : spacing (p / q) ≤ twoPow 2044 := spacing_le hlow
    have hle := nearestSteps_le p q
    have hbelow : p / q + 1 ≤ limit - twoPow 2044 := by
      rw [htop]
      change p / q < twoPow 2097 at hlow
      omega
    refine iff_of_false ?_ (Nat.not_le_of_lt ?_)
    · change p / q < twoPow 2097 at hlow
      omega
    · calc p < q * (p / q + 1) := Nat.lt_mul_div_succ p hq
        _ ≤ q * (limit - twoPow 2044) := Nat.mul_le_mul_left q hbelow
        _ = (limit - twoPow 2044) * q := Nat.mul_comm _ _
  -- From the last power of two below the limit on, the spacing is the greatest there is.
  · have hspacing : spacing (p / q) = twoPow 2045 :=
      spacing_eq (Nat.le_of_not_lt hlow) hlt
    have hlimit : limit = twoPow 53 * twoPow 2045 := by
      rw [limit_eq, ← twoPow_add]
    have hhalf : twoPow 2045 = 2 * twoPow 2044 := twoPow_succ 2044
    rw [nearestSteps, hspacing, hlimit, Nat.mul_le_mul_right_iff (twoPow_pos _)]
    rw [le_roundHalfEven_iff (Nat.mul_pos hq (twoPow_pos _)) (by decide +kernel)]
    rw [hhalf]
    exact halfway_iff p q (twoPow 53) (twoPow 2044)

theorem nearest_eq_none_iff {p q : Nat} (hq : 0 < q) :
    nearest p q = none ↔ (limit - twoPow 2044) * q ≤ p := by
  rw [← limit_le_nearestSteps_iff hq, nearest]
  split <;> simp_all

end Magnitude

namespace Binary64
open Number Magnitude

def integerLimit : Nat := twoPow 1024 - twoPow 970

theorem ofInt?_eq_none_iff (n : Int) : ofInt? n = none ↔ integerLimit ≤ n.natAbs := by
  have hlimit : limit - twoPow 2044 = integerLimit * one := by
    rw [integerLimit, one, stepExponent, Nat.sub_mul, ← twoPow_add, ← twoPow_add, limit_eq]
  rw [ofInt?, Option.map_eq_none_iff, Magnitude.nearest_eq_none_iff Nat.one_pos, hlimit]
  rw [Nat.mul_one, Nat.mul_le_mul_right_iff one_pos]

end Binary64

end BlockRules
