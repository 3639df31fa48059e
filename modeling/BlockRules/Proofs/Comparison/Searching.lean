import BlockRules.Proofs.Comparison.IntegerText

set_option autoImplicit false

namespace BlockRules

namespace Binary64
open Number

theorem signed_eq_signed_iff {negative negative' : Bool} {m n : Nat} :
    signed negative m = signed negative' n ↔ m = n ∧ (negative = negative' ∨ m = 0) := by
  cases negative <;> cases negative' <;> simp [signed] <;> omega

theorem eq_or_zeros_of_same {x y : Binary64} (h : x.same y = true) :
    x = y ∨ ∃ negative negative', x = finite negative .zero ∧ y = finite negative' .zero := by
  obtain ⟨a, b, ha, hb, hab⟩ := exists_position_of_compare h
  cases of_decide_eq_true hab
  cases x with
  | finite negative m =>
    cases y with
    | finite negative' m' =>
      have hsteps := Option.some.inj (ha.trans hb.symm)
      obtain ⟨hsteps, hsign⟩ := signed_eq_signed_iff.1 hsteps
      obtain rfl : m = m' := Magnitude.ext hsteps
      obtain rfl | hzero := hsign
      · exact .inl rfl
      · obtain rfl : m = .zero := Magnitude.ext hzero
        exact .inr ⟨negative, negative', rfl, rfl⟩
    | infinite negative' =>
      have hsteps := (signed_eq_signed_iff.1 (Option.some.inj (ha.trans hb.symm))).1
      exact absurd hsteps (Nat.ne_of_lt m.bounded)
    | nan => cases hb
  | infinite negative =>
    cases y with
    | finite negative' m' =>
      have hsteps := (signed_eq_signed_iff.1 (Option.some.inj (hb.trans ha.symm))).1
      exact absurd hsteps (Nat.ne_of_lt m'.bounded)
    | infinite negative' =>
      obtain ⟨-, rfl | hzero⟩ := signed_eq_signed_iff.1 (Option.some.inj (ha.trans hb.symm))
      · exact .inl rfl
      · exact absurd hzero (Nat.ne_of_gt limit_pos)
    | nan => cases hb
  | nan => cases ha

theorem truncate_of_sameInt {x : Binary64} {n : Int} (h : x.sameInt n = true) :
    x.isWhole = true ∧ x.truncate = some n := by
  cases x with
  | finite negative m =>
    have hplace := of_decide_eq_true h
    have hsteps : m.steps = n.natAbs * one := by
      have habs := congrArg Int.natAbs hplace
      rwa [natAbs_signed, Int.natAbs_mul, Int.natAbs_natCast] at habs
    refine ⟨decide_eq_true (hsteps ▸ Nat.dvd_mul_left _ _), ?_⟩
    rw [hsteps, signed_mul] at hplace
    rw [truncate, hsteps, Nat.mul_div_cancel _ one_pos, Option.some.injEq]
    exact Int.eq_of_mul_eq_mul_right (Int.natCast_ne_zero.2 one_pos.ne') hplace
  | infinite negative => cases h
  | nan => cases h

theorem isLong_of_sameInt {x : Binary64} {n : Int} (h : x.sameInt n = true) : isLong n = false := by
  obtain ⟨m, hm⟩ := exists_steps_of_sameInt h
  have hrange : n.natAbs < twoPow topExponent := mul_one_lt_limit_iff.1 (hm ▸ m.bounded)
  have hpower : twoPow topExponent ≤ tenPow digitLimit :=
    Nat.le_trans (twoPow_le (by decide)) (twoPow_le_tenPow digitLimit)
  exact decide_eq_false (Nat.not_le_of_lt (Nat.lt_of_lt_of_le hrange hpower))

end Binary64

namespace Value

/-- The text by which a value is searched, if it can be written. -/
def searched (v : Value) : Except ComparisonError (List Char) :=
  if v.hasLongInteger then .error .integerTooLong else .ok v.searchText

theorem kind_eq_null_iff {v : Value} : v.kind = .null ↔ v = .null := by
  cases v with
  | scalar s => cases s <;> simp [kind, Scalar.kind]
  | again isObject => cases isObject <;> simp [kind]
  | list | object | entry | set => simp [kind]

theorem areSearched_iff {left right : Value} :
    left.areSearched right = true ↔ ¬(left.kind = .null ∨ right.kind = .null) := by
  rw [kind_eq_null_iff, kind_eq_null_iff]
  unfold areSearched
  split <;> split <;> simp_all

theorem contains_eq (left right : Value) :
    left.contains right =
      if left.kind = .null ∨ right.kind = .null then false else occursIn right.searchText left.searchText := by
  unfold contains
  split
  · rfl
  · exact (if_pos (.inr rfl)).symm
  · rename_i hleft hright
    exact (if_neg (not_or.2 ⟨mt kind_eq_null_iff.1 hleft, mt kind_eq_null_iff.1 hright⟩)).symm

theorem search_eq (left right : Value) :
    left.search right =
      if left.kind = .null ∨ right.kind = .null then .ok false
      else do
        let part ← right.searched
        let whole ← left.searched
        return occursIn part whole := by
  rw [search, contains_eq]
  by_cases hnull : left.kind = .null ∨ right.kind = .null
  · have hskipped : left.areSearched right = false := by
      rw [← Bool.not_eq_true, areSearched_iff]
      exact not_not.2 hnull
    rw [if_pos hnull, if_pos hnull, hskipped]
    rfl
  · rw [if_neg hnull, if_neg hnull, areSearched_iff.2 hnull, searched, searched]
    cases left.hasLongInteger <;> cases right.hasLongInteger <;> rfl

/-- Values of one kind with one text cannot be told apart by a search, on either side. -/
theorem search_congr {v w : Value} (hkind : v.kind = w.kind) (htext : v.searched = w.searched) (other : Value) :
    v.search other = w.search other ∧ other.search v = other.search w := by
  rw [search_eq, search_eq, search_eq, search_eq, hkind, htext]
  exact ⟨rfl, rfl⟩

theorem searched_int {n : Int} (h : Number.isLong n = false) : (Value.int n).searched = .ok (writtenInt n) := by
  have htext : (Value.int n).searchText = writtenInt n := String.toList_ofList
  have hlong : (Value.int n).hasLongInteger = false := h
  rw [searched, hlong, htext]
  rfl

theorem searched_float (x : Binary64) :
    (Value.float x).searched =
      .ok (if x.isWhole then writtenInt (x.truncate.getD 0) else x.text.toList) := rfl

theorem searched_of_sameInt {x : Binary64} {n : Int} (h : x.sameInt n = true) :
    (Value.float x).searched = .ok (writtenInt n) := by
  obtain ⟨hwhole, htruncate⟩ := Binary64.truncate_of_sameInt h
  rw [searched_float, hwhole, htruncate]
  rfl

theorem searched_of_same {x y : Binary64} (h : x.same y = true) :
    (Value.float x).searched = (Value.float y).searched := by
  obtain rfl | ⟨negative, negative', rfl, rfl⟩ := Binary64.eq_or_zeros_of_same h
  · rfl
  · have hzero : ∀ sign, (Binary64.finite sign .zero).sameInt 0 = true := by
      intro sign
      apply decide_eq_true
      cases sign <;> rw [Int.zero_mul] <;> rfl
    rw [searched_of_sameInt (hzero negative), searched_of_sameInt (hzero negative')]

end Value

namespace Scalar
open Value

theorem eq_or_numbers_of_strictEquals {a b : Scalar} (hjson : a.isJson = true)
    (h : (Value.scalar a).strictEquals (.scalar b) = true) :
    a = b ∨ a.kind = .number ∧ b.kind = .number ∧
      ∃ text, (Value.scalar a).searched = .ok text ∧ (Value.scalar b).searched = .ok text := by
  obtain ⟨hkind, hsame⟩ := Bool.and_eq_true _ _ ▸ h
  replace hkind : a.kind = b.kind := eq_of_beq hkind
  replace hsame : a.same b = true := hsame
  cases a with
  | null => cases b <;> first | exact .inl rfl | cases hkind
  | bool p =>
    cases b with
    | bool q => cases p <;> cases q <;> first | exact .inl rfl | cases hsame
    | _ => cases hkind
  | text s =>
    cases b with
    | text t => exact .inl (congrArg _ (eq_of_beq hsame))
    | _ => cases hkind
  | int m =>
    cases b with
    | int n => exact .inl (congrArg _ (eq_of_beq hsame))
    | float y =>
      have htext := searched_of_sameInt (x := y) hsame
      exact .inr ⟨rfl, rfl, _, searched_int (Binary64.isLong_of_sameInt (x := y) hsame), htext⟩
    | _ => cases hkind
  | float x =>
    cases b with
    | int n =>
      have htext := searched_of_sameInt (x := x) hsame
      exact .inr ⟨rfl, rfl, _, htext, searched_int (Binary64.isLong_of_sameInt (x := x) hsame)⟩
    | float y => exact .inr ⟨rfl, rfl, _, searched_float x, (searched_of_same hsame).symm⟩
    | _ => cases hkind
  | bytes | date | moment => cases hjson

end Scalar

namespace Condition
open Value

/-- Strictly equal scalars of JSON have the same text to search or be searched for, and it can be written unless the two
are one and the same integer that is too long. So a search has the same answer, or fails alike, for both of them,
whether they are the input or the value that is searched for. -/
theorem searching_of_equal {a b : Scalar} (hjson : a.isJson = true)
    (h : (Value.scalar a).strictEquals (.scalar b) = true) :
    (Value.scalar a).searched = (Value.scalar b).searched ∧
    (a ≠ b → ∃ text, (Value.scalar a).searched = .ok text) ∧
    ∀ (c c' : Condition) (inputs inputs' : Inputs) (other : Value),
      (c.Between inputs (.scalar a) other → c'.Between inputs' (.scalar b) other →
        (c.comparedBy "contains").holds inputs = (c'.comparedBy "contains").holds inputs') ∧
      (c.Between inputs other (.scalar a) → c'.Between inputs' other (.scalar b) →
        (c.comparedBy "contains").holds inputs = (c'.comparedBy "contains").holds inputs') := by
  have hnumbers := Scalar.eq_or_numbers_of_strictEquals hjson h
  have hkind : (Value.scalar a).kind = (Value.scalar b).kind := by
    obtain rfl | ⟨ha, hb, -⟩ := hnumbers
    · rfl
    · exact ha.trans hb.symm
  have htext : (Value.scalar a).searched = (Value.scalar b).searched := by
    obtain rfl | ⟨-, -, text, ha, hb⟩ := hnumbers
    · rfl
    · exact ha.trans hb.symm
  refine ⟨htext, fun hne => ?_, fun c c' inputs inputs' other => ⟨fun hc hc' => ?_, fun hc hc' => ?_⟩⟩
  · obtain ⟨-, -, text, ha, -⟩ := hnumbers.resolve_left hne
    exact ⟨text, ha⟩
  · rw [hc.holds rfl, hc'.holds rfl]
    exact (search_congr hkind htext other).1
  · rw [hc.holds rfl, hc'.holds rfl]
    exact (search_congr hkind htext other).2

/-- A number is searched as the integer that it equals, not as the text that shows it. -/
theorem searching_of_wholeNumbers :
    (Value.float (.ofDecimal false 1 22)).shown = "1e+22" ∧ (Value.float (.ofDecimal true 0 0)).shown = "-0.0" ∧
    (Value.scalar (.int 10000000000000000000000)).strictEquals
      (.scalar (.float (.ofDecimal false 1 22))) = true ∧
    (Value.scalar (.int 0)).strictEquals (.scalar (.float (.ofDecimal true 0 0))) = true ∧
    ((scoreIs (.text "1000")).comparedBy "contains").holds [("score", .float (.ofDecimal false 1 22))] = .ok true ∧
    ((scoreIs (.float (.ofDecimal true 0 0))).comparedBy "contains").holds [("score", .text "10")] = .ok true := by
  have hbetween : ∀ a b : Value, (scoreIs b).Between [("score", a)] a b := fun _ _ => ⟨rfl, rfl⟩
  have hlarge : (Value.scalar (.int 10000000000000000000000)).strictEquals
      (.scalar (.float (.ofDecimal false 1 22))) = true := by decide +kernel
  have hzero : (Value.scalar (.int 0)).strictEquals (.scalar (.float (.ofDecimal true 0 0))) = true := by
    decide +kernel
  refine ⟨by decide +kernel, by decide +kernel, hlarge, hzero, ?_, ?_⟩
  · obtain ⟨-, -, hsame⟩ := searching_of_equal rfl hlarge
    rw [← (hsame _ _ _ _ _).1 (hbetween _ _) (hbetween _ _)]
    decide +kernel
  · obtain ⟨-, -, hsame⟩ := searching_of_equal rfl hzero
    rw [← (hsame _ _ _ _ _).2 (hbetween _ _) (hbetween _ _)]
    decide +kernel

end Condition

end BlockRules
