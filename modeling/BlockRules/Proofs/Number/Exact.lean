import BlockRules.Proofs.Number.Decimal

set_option autoImplicit false

namespace BlockRules

namespace Number

theorem exists_significand {a k s t bits : Nat} (hk : k < twoPow bits) (h : a * twoPow t = k * twoPow s) :
    ∃ m e, a = m * twoPow e ∧ m < twoPow bits := by
  obtain hle | hle := Nat.le_total s t
  · refine ⟨a, 0, (Nat.mul_one a).symm, ?_⟩
    have hcount : a * twoPow (t - s) = k := by
      apply Nat.eq_of_mul_eq_mul_right (twoPow_pos s)
      rw [Nat.mul_assoc, ← twoPow_add, Nat.sub_add_cancel hle, h]
    calc a ≤ a * twoPow (t - s) := Nat.le_mul_of_pos_right a (twoPow_pos _)
      _ = k := hcount
      _ < twoPow bits := hk
  · refine ⟨k, s - t, ?_, hk⟩
    apply Nat.eq_of_mul_eq_mul_right (twoPow_pos t)
    rw [h, Nat.mul_assoc, ← twoPow_add, Nat.sub_add_cancel hle]

end Number

namespace Binary64
open Number Magnitude

/-- An integer with at most 53 significant bits, less than `2 ^ 1024`. -/
def IsRepresentable (n : Int) : Prop :=
  n.natAbs < twoPow topExponent ∧ ∃ m e, n.natAbs = m * twoPow e ∧ m < twoPow 53

theorem mul_one_lt_limit_iff {a : Nat} : a * one < limit ↔ a < twoPow topExponent := by
  rw [limit, twoPow_add, ← one]
  exact Nat.mul_lt_mul_right one_pos

theorem exists_steps_iff {n : Int} : (∃ m : Magnitude, m.steps = n.natAbs * one) ↔ IsRepresentable n := by
  constructor
  · rintro ⟨m, hm⟩
    refine ⟨mul_one_lt_limit_iff.1 (hm ▸ m.bounded), ?_⟩
    have hcount : m.steps = m.steps / spacing m.steps * twoPow (m.steps.log2 - 52) :=
      (Nat.div_mul_cancel m.spaced).symm
    apply exists_significand (div_spacing_lt m.steps)
    rw [← hcount, hm, one]
  · rintro ⟨hrange, m, e, hm, hlt⟩
    have hsteps : n.natAbs * one = m * twoPow (e + stepExponent) := by
      rw [hm, one, twoPow_add, Nat.mul_assoc]
    have hspaced := spacing_dvd_mul (k := e + stepExponent) hlt.le
    rw [← hsteps] at hspaced
    exact ⟨⟨n.natAbs * one, hspaced, mul_one_lt_limit_iff.2 hrange⟩, rfl⟩

theorem natAbs_signed (negative : Bool) (steps : Nat) : (signed negative steps).natAbs = steps := by
  cases negative <;> simp [signed]

theorem signed_mul (negative : Bool) (a b : Nat) : signed negative (a * b) = signed negative a * b := by
  cases negative <;> simp [signed]

theorem signed_natAbs (n : Int) : signed (decide (n < 0)) n.natAbs = n := by
  rw [signed]
  by_cases hn : n < 0
  · rw [decide_eq_true hn, if_pos rfl]
    omega
  · rw [decide_eq_false hn, if_neg Bool.false_ne_true]
    omega

theorem sameInt_of_steps {n : Int} {m : Magnitude} (h : m.steps = n.natAbs * one) :
    (finite (decide (n < 0)) m).sameInt n = true := by
  apply decide_eq_true
  rw [h, signed_mul, signed_natAbs]

theorem exists_steps_of_sameInt {n : Int} {x : Binary64} (h : x.sameInt n = true) :
    ∃ m : Magnitude, m.steps = n.natAbs * one := by
  cases x with
  | finite negative m =>
    have habs := congrArg Int.natAbs (of_decide_eq_true h)
    rw [natAbs_signed, Int.natAbs_mul, Int.natAbs_natCast] at habs
    exact ⟨m, habs⟩
  | infinite negative => cases h
  | nan => cases h

/-- An integer equals some number if and only if it is representable. -/
theorem exists_sameInt_iff {n : Int} : (∃ x : Binary64, x.sameInt n = true) ↔ IsRepresentable n := by
  rw [← exists_steps_iff]
  constructor
  · rintro ⟨x, hx⟩
    exact exists_steps_of_sameInt hx
  · rintro ⟨m, hm⟩
    exact ⟨_, sameInt_of_steps hm⟩

theorem sameInt_ofQuotient_iff {n : Int} :
    (ofQuotient (decide (n < 0)) n.natAbs 1).sameInt n = true ↔ IsRepresentable n := by
  constructor
  · intro h
    exact exists_sameInt_iff.1 ⟨_, h⟩
  · intro h
    obtain ⟨m, hm⟩ := exists_steps_iff.2 h
    rw [ofQuotient_eq_elim, ← hm, nearest_steps, Option.elim_some]
    exact sameInt_of_steps hm

end Binary64

end BlockRules
