import BlockRules.Proofs.Comparison.IntegerText
import BlockRules.Proofs.Number.Nearest
import BlockRules.Proofs.Number.Places

set_option autoImplicit false

/-!
# Ordering by decimals

A decimal in a text is read as the number nearest to it. Among decimals of up to eight places, rounding changes the
order of none with one that is between zero and `2 ^ 23`: ordering conditions answer as the decimals themselves do.
-/
namespace BlockRules

namespace Binary64
open Number Magnitude

def nearestTo (m : Int) (q : Nat) : Binary64 := ofQuotient (decide (m < 0)) m.natAbs q

theorem position_ofQuotient (negative : Bool) (p q : Nat) :
    (ofQuotient negative p q).position = some (signed negative (min (nearestSteps (p * one) q) limit)) := by
  rw [ofQuotient_eq_elim, nearest]
  split
  · rename_i hlt
    rw [Option.elim_some, position, min_eq_left (Nat.le_of_lt hlt)]
  · rename_i hover
    rw [Option.elim_none, position, min_eq_right (Nat.le_of_not_lt hover)]

/-- Where the number nearest to `n / c` stands. -/
def place (c n : Nat) : Nat := min (nearestSteps (n * one) c) limit

theorem place_mul {c q k : Nat} (hc : 0 < c) (h : q * k = c) (n : Nat) : place q n = place c (n * k) := by
  have hq : 0 < q := Nat.pos_of_mul_pos_right (h ▸ hc)
  have hk : 0 < k := Nat.pos_of_mul_pos_left (h ▸ hc)
  rw [place, place, ← h, Nat.mul_right_comm, nearestSteps_mul_mul hq hk]

theorem position_nearestTo (m : Int) (q : Nat) :
    (nearestTo m q).position = some (signed (decide (m < 0)) (place q m.natAbs)) :=
  position_ofQuotient _ _ _

theorem place_zero {q : Nat} (hq : 0 < q) : place q 0 = 0 := by
  have hround := roundHalfEven_mul 0 (q * spacing (0 / q)) (Nat.mul_pos hq (spacing_pos _))
  rw [Nat.zero_mul] at hround
  rw [place, Nat.zero_mul, nearestSteps, hround, Nat.zero_mul, Nat.zero_min]

section
variable {c : Nat} (hc : 0 < c) (hfew : c < twoPow 29)
include hc hfew

theorem place_lt {a b : Nat} (ha : a ≤ twoPow 23 * c) (h : a < b) : place c a < place c b := by
  have hsteps := nearestSteps_lt hc hfew ha h
  have hlimit : nearestSteps (a * one) c < limit := by
    apply nearestSteps_lt_limit hc
    have hdouble : twoPow 24 * c = twoPow 23 * c + twoPow 23 * c := by rw [twoPow_succ 23, Nat.two_mul, Nat.add_mul]
    have hmore : 0 < twoPow 23 * c := Nat.mul_pos (twoPow_pos 23) hc
    omega
  rw [place, place]
  omega

theorem place_lt_iff {a b : Nat} (ha : a ≤ twoPow 23 * c) :
    (place c a < place c b ↔ a < b) ∧ (place c b < place c a ↔ b < a) := by
  obtain h | rfl | h := Nat.lt_trichotomy a b
  · have hplace := place_lt hc hfew ha h
    constructor <;> omega
  · constructor <;> omega
  · have hplace := place_lt hc hfew (Nat.le_trans (Nat.le_of_lt h) ha) h
    constructor <;> omega

theorem nearestTo_less_iff {u q r k l : Nat} {m : Int} (hq : q * k = c) (hr : r * l = c) (hu : u * k ≤ twoPow 23 * c) :
    ((nearestTo u q).less (nearestTo m r) = true ↔ ((u * k : Nat) : Int) < m * l) ∧
      ((nearestTo m r).less (nearestTo u q) = true ↔ m * l < ((u * k : Nat) : Int)) := by
  have hleft : (nearestTo u q).position = some ((place c (u * k) : Nat) : Int) := by
    rw [position_nearestTo, Int.natAbs_natCast, decide_eq_false (Int.not_lt.2 (Int.natCast_nonneg u)), place_mul hc hq]
    rfl
  have hright : (nearestTo m r).position = some (signed (decide (m < 0)) (place c (m.natAbs * l))) := by
    rw [position_nearestTo, place_mul hc hr]
  rw [less, less, compare_eq hleft hright, compare_eq hright hleft, decide_eq_true_iff, decide_eq_true_iff]
  have hl : 0 < l := Nat.pos_of_mul_pos_left (hr ▸ hc)
  by_cases hm : m < 0
  · -- Negative quotients are not rounded to zero, and so stay below the other one.
    have hplace : 0 < place c (m.natAbs * l) := by
      have hpos : 0 < m.natAbs * l := Nat.mul_pos (Int.natAbs_pos.2 (Int.ne_of_lt hm)) hl
      exact Nat.lt_of_le_of_lt (Nat.zero_le _) (place_lt hc hfew (Nat.zero_le _) hpos)
    have hmul : m * l < 0 := Int.mul_neg_of_neg_of_pos hm (Int.natCast_pos.2 hl)
    rw [decide_eq_true hm, signed, if_pos rfl]
    constructor <;> omega
  · obtain ⟨n, rfl⟩ := Int.eq_ofNat_of_zero_le (Int.not_lt.1 hm)
    rw [decide_eq_false hm, signed, if_neg Bool.false_ne_true, Int.natAbs_natCast, ← Int.natCast_mul]
    obtain ⟨hless, hgreater⟩ := place_lt_iff hc hfew (b := n * l) hu
    exact ⟨Int.ofNat_lt.trans (hless.trans Int.ofNat_lt.symm), Int.ofNat_lt.trans (hgreater.trans Int.ofNat_lt.symm)⟩

end

theorem compare_congr {test : Int → Int → Bool} {x x' y y' : Binary64} (hx : x.position = x'.position)
    (hy : y.position = y'.position) : x.compare test y = x'.compare test y' := by
  rw [compare, compare, hx, hy]

end Binary64

namespace Number

def decimal (m : Int) (places : Nat) : ℚ := m / (tenPow places : ℚ)

theorem decimal_lt_iff {m m' : Int} {places places' k l c : Nat} (hc : 0 < c) (hk : tenPow places * k = c)
    (hl : tenPow places' * l = c) : decimal m places < decimal m' places' ↔ m * k < m' * l := by
  have hscaled : ∀ (m : Int) {q k : Nat}, q * k = c → (m : ℚ) / q = ((m * k : Int) : ℚ) / c := by
    rintro m q k rfl
    have hk : (k : ℚ) ≠ 0 := Nat.cast_ne_zero.2 (Nat.pos_of_mul_pos_left hc).ne'
    rw [Int.cast_mul, Int.cast_natCast, Nat.cast_mul, mul_div_mul_right _ _ hk]
  rw [decimal, decimal, hscaled m hk, hscaled m' hl, div_lt_div_iff_of_pos_right (Nat.cast_pos.2 hc), Int.cast_lt]

/-- With at most so many places, different decimals up to `2 ^ 23` are not rounded to one number. -/
def fewPlaces : Nat := 8

theorem tenPow_fewPlaces {places : Nat} (h : places ≤ fewPlaces) :
    tenPow places * tenPow (fewPlaces - places) = tenPow fewPlaces := by
  rw [← tenPow_add, Nat.add_sub_cancel' h]

end Number

namespace Binary64
open Number

section
variable {x y : Binary64} {u places places' : Nat} {m : Int}

/-- Numbers in the places of those nearest to decimals are in the order of the decimals. -/
theorem less_iff_decimal_lt (hx : x.position = (nearestTo u (tenPow places)).position)
    (hy : y.position = (nearestTo m (tenPow places')).position) (hplaces : places ≤ fewPlaces)
    (hplaces' : places' ≤ fewPlaces) (hu : u ≤ twoPow 23 * tenPow places) :
    (x.less y = true ↔ decimal u places < decimal m places') ∧
      (y.less x = true ↔ decimal m places' < decimal u places) := by
  have hk := tenPow_fewPlaces hplaces
  have hl := tenPow_fewPlaces hplaces'
  have hrange : u * tenPow (fewPlaces - places) ≤ twoPow 23 * tenPow fewPlaces := by
    rw [← hk, ← Nat.mul_assoc]
    exact Nat.mul_le_mul_right _ hu
  rw [decimal_lt_iff (tenPow_pos _) hk hl, decimal_lt_iff (tenPow_pos _) hl hk, ← Int.natCast_mul]
  rw [less, less, compare_congr hx hy, compare_congr hy hx]
  exact nearestTo_less_iff (tenPow_pos _) (by decide) hk hl hrange

theorem ne_nan_of_position (h : x.position = (nearestTo m places).position) : x ≠ .nan := by
  rintro rfl
  cases h.trans (position_nearestTo m places)

end

theorem signed_sign_signed (negative : Bool) {a b : Nat} (h : a = 0 → b = 0) :
    signed (decide (signed negative a < 0)) b = signed negative b := by
  cases negative with
  | false =>
    have hnonneg : ¬signed false a < 0 := Int.not_lt.2 (Int.natCast_nonneg a)
    rw [decide_eq_false hnonneg]
  | true =>
    obtain rfl | ha := Nat.eq_zero_or_pos a
    · rw [h rfl]
      rfl
    · have hneg : signed true a < 0 := Int.neg_neg_of_pos (Int.natCast_pos.2 ha)
      rw [decide_eq_true hneg]

end Binary64

namespace Value
open Number Text Binary64

/-- A value that ordering reads as the number nearest to a decimal, whatever its sign if that is zero. -/
def IsDecimal (v : Value) (m : Int) (places : Nat) : Prop :=
  ∃ x, v.leadingNumber = .ok x ∧ x.position = (nearestTo m (tenPow places)).position

theorem isDecimal_int {n : Int} (hn : n.natAbs < integerLimit) : (Value.int n).IsDecimal n 0 :=
  ⟨_, (leadingNumber_int hn).1, rfl⟩

theorem powerOfTen_neg (n : Nat) : Magnitude.powerOfTen (0 - (n : Int)) = (1, tenPow n) := by
  cases n <;> rfl

theorem isDecimal_of_writes {s : String} {l : Literal} (h : l.Writes (strip s.toList)) (hexponent : l.exponent = 0) :
    (Value.text s).IsDecimal (signed l.negative (digitsValue (l.whole ++ l.fraction))) l.fraction.length := by
  refine ⟨l.value, congrArg Except.ok (leadingNumberOf_of_writes h), ?_⟩
  rw [l.value_eq_ofQuotient, Literal.quotient, hexponent, powerOfTen_neg, Nat.mul_one, position_ofQuotient, ← place]
  rw [position_nearestTo, natAbs_signed, signed_sign_signed]
  intro hzero
  rw [hzero, place_zero (tenPow_pos _)]

theorem isDecimal_placesText (places n : Nat) :
    (Value.text (String.ofList (placesText (places + 1) n))).IsDecimal n (places + 1) := by
  have hlength : (padded (places + 1) (n % tenPow (places + 1))).length = places + 1 :=
    length_padded (Nat.succ_pos _) (Nat.mod_lt _ (tenPow_pos _))
  have hwhole : (n / tenPow (places + 1)).repr.toList ≠ [] := by
    rw [Nat.toList_repr]
    exact Nat.toDigits_ne_nil
  have hwrites : Literal.Writes ⟨false, (n / tenPow (places + 1)).repr.toList,
      padded (places + 1) (n % tenPow (places + 1)), 0⟩ ([] ++ (placesText (places + 1) n ++ [])) :=
    .parts (.head _) (.pointed (.inl hwhole) (fun _ hc => isDigit_of_isDigit (isDigit_of_mem_repr hc))
      fun _ hc => isDigit_of_isDigit (isDigit_of_mem_padded hc)) .absent
  rw [List.nil_append, List.append_nil, ← strip_placesText] at hwrites
  have h := isDecimal_of_writes (s := String.ofList (placesText (places + 1) n)) (by rwa [String.toList_ofList]) rfl
  rwa [digitsValue_placesText, hlength] at h

end Value

namespace Comparator
open Number Binary64

/-- What an ordering says of two exact numbers. -/
def ordersExactly : Comparator → ℚ → ℚ → Bool
  | greater, x, y => decide (y < x)
  | less, x, y => decide (x < y)
  | atLeast, x, y => decide (y ≤ x)
  | atMost, x, y => decide (x ≤ y)
  | _, _, _ => false

/-- A decimal between zero and `2 ^ 23` is ordered exactly, the other one being any decimal. -/
theorem holds_of_isDecimal {comparator : Comparator} (horders : comparator.orders = true) {v w : Value}
    {u places places' : Nat} {m : Int} (hv : v.IsDecimal u places) (hw : w.IsDecimal m places')
    (hplaces : places ≤ fewPlaces) (hplaces' : places' ≤ fewPlaces) (hu : u ≤ twoPow 23 * tenPow places) :
    comparator.holds v w = .ok (comparator.ordersExactly (decimal u places) (decimal m places')) := by
  obtain ⟨x, hx, hxplace⟩ := hv
  obtain ⟨y, hy, hyplace⟩ := hw
  obtain ⟨hless, hgreater⟩ := less_iff_decimal_lt hxplace hyplace hplaces hplaces' hu
  have hxnan := ne_nan_of_position hxplace
  have hynan := ne_nan_of_position hyplace
  replace hless := Bool.eq_iff_iff.2 (hless.trans (decide_eq_true_iff).symm)
  replace hgreater := Bool.eq_iff_iff.2 (hgreater.trans (decide_eq_true_iff).symm)
  cases comparator <;> cases horders
  · exact (order_eq hx hy).trans (congrArg _ hgreater)
  · exact (order_eq hx hy).trans (congrArg _ hless)
  · refine (order_eq hx hy).trans (congrArg _ ?_)
    rw [atMost_eq_not_less hxnan hynan, hless, ← decide_not]
    exact decide_eq_decide.2 not_lt
  · refine (order_eq hx hy).trans (congrArg _ ?_)
    rw [atMost_eq_not_less hynan hxnan, hgreater, ← decide_not]
    exact decide_eq_decide.2 not_lt

end Comparator

end BlockRules
