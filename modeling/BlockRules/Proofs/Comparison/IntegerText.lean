import BlockRules.Proofs.Comparison.Exchange
import BlockRules.Proofs.Comparison.Ordering
import BlockRules.Proofs.Comparison.Reading
import BlockRules.Proofs.Number.Digits
import BlockRules.Proofs.Number.Exact

set_option autoImplicit false

/-!
# Integers and their texts

The text of an integer is a literal, which is read as the number nearest to the integer. Ordering rounds the integer
itself in the same way and cannot tell the two apart. Equality does not round it: an integer equals its text only
where rounding changes nothing.
-/
namespace BlockRules

namespace Number
open Text

theorem writtenInt_eq (n : Int) : writtenInt n = (if n < 0 then ['-'] else []) ++ n.natAbs.repr.toList := by
  cases n with
  | ofNat m => rfl
  | negSucc m => simp [writtenInt, Int.repr, Int.negSucc_lt_zero]

theorem isBlank_of_mem_writtenInt {n : Int} {c : Char} (h : c ∈ writtenInt n) : isBlank c = false := by
  rw [writtenInt_eq, List.mem_append] at h
  obtain hsign | hdigit := h
  · split at hsign
    · rw [List.mem_singleton.1 hsign]
      decide
    · cases hsign
  · exact isBlank_of_isDigit (isDigit_of_mem_repr hdigit)

theorem strip_writtenInt (n : Int) : strip (writtenInt n) = writtenInt n :=
  trimBy_eq_self (fun _ hc => isBlank_of_mem_writtenInt (List.mem_of_head? hc))
    fun _ hc => isBlank_of_mem_writtenInt (List.mem_of_getLast? hc)

theorem leadingNumberOf_of_writes {s : String} {l : Literal} (h : l.Writes (strip s.toList)) :
    leadingNumberOf s = l.value := by
  rw [leadingNumberOf_of_no_infinity (takeInfinity_of_writes h), takeLiteral_of_writes h, Option.elim_some]

theorem wholeNumberOf_of_writes {s : String} {l : Literal} (h : l.Writes (strip s.toList)) :
    wholeNumberOf s = l.value := by
  have hsome : strip s.toList ≠ [] := by
    intro hnil
    rw [hnil] at h
    cases takeLiteral_of_writes h
  have hinfinity : ∀ negative, ¬WritesInfinity negative (strip s.toList) := fun negative =>
    takeInfinity_eq_none_iff.1 (takeInfinity_of_writes h) negative _ (List.prefix_refl _)
  rw [wholeNumberOf_of_no_infinity hsome hinfinity, literal?_eq_some_iff.2 h, Option.elim_some]

namespace Literal

/-- The literal that the text of an integer is. -/
def ofInt (n : Int) : Literal := ⟨decide (n < 0), n.natAbs.repr.toList, [], 0⟩

theorem writes_ofInt (n : Int) : (ofInt n).Writes (writtenInt n) := by
  have hsign : (if n < 0 then ['-'] else []) ∈ signs (decide (n < 0)) := by
    by_cases hn : n < 0 <;> simp [signs, hn]
  have hsome : n.natAbs.repr.toList ≠ [] := by
    rw [Nat.toList_repr]
    exact Nat.toDigits_ne_nil
  have hdigits : AllDigits n.natAbs.repr.toList := fun c hc => isDigit_of_isDigit (isDigit_of_mem_repr hc)
  have hwrites := Writes.parts hsign (.digits hsome hdigits) .absent
  rwa [List.append_nil, ← writtenInt_eq] at hwrites

theorem value_ofInt (n : Int) : (ofInt n).value = .ofQuotient (decide (n < 0)) n.natAbs 1 := by
  have hquotient : (ofInt n).quotient = (digitsValue (n.natAbs.repr.toList ++ []) * 1, 1) := rfl
  rw [value_eq_ofQuotient, hquotient, List.append_nil, digitsValue_repr, Nat.mul_one]
  rfl

end Literal

end Number

namespace Value
open Number Text

def intText (n : Int) : Value := .text (Value.int n).shown

theorem writes_shown (n : Int) : (Literal.ofInt n).Writes (strip (Value.int n).shown.toList) := by
  have hshown : (Value.int n).shown.toList = writtenInt n := String.toList_ofList
  rw [hshown, strip_writtenInt]
  exact Literal.writes_ofInt n

/-- Ordering reads the text of an integer as the number nearest to it. -/
theorem leadingNumberOf_shown (n : Int) :
    leadingNumberOf (Value.int n).shown = .ofQuotient (decide (n < 0)) n.natAbs 1 := by
  rw [leadingNumberOf_of_writes (writes_shown n), Literal.value_ofInt]

theorem wholeNumberOf_shown (n : Int) :
    wholeNumberOf (Value.int n).shown = .ofQuotient (decide (n < 0)) n.natAbs 1 := by
  rw [wholeNumberOf_of_writes (writes_shown n), Literal.value_ofInt]

theorem leadingNumber_intText (n : Int) :
    (intText n).leadingNumber = .ok (.ofQuotient (decide (n < 0)) n.natAbs 1) := by
  rw [intText, leadingNumber, leadingNumberOf_shown]

theorem leadingNumber_int {n : Int} (hn : n.natAbs < Binary64.integerLimit) :
    (Value.int n).leadingNumber = .ok (.ofQuotient (decide (n < 0)) n.natAbs 1) ∧
      (Binary64.ofQuotient (decide (n < 0)) n.natAbs 1).isFinite = true := by
  have hsome : Binary64.ofInt? n ≠ none := by
    rw [Ne, Binary64.ofInt?_eq_none_iff]
    omega
  rw [leadingNumber, numberOfInt_eq_elim, Binary64.ofQuotient_eq_elim]
  rw [Binary64.ofInt?] at hsome ⊢
  generalize Magnitude.nearest (n.natAbs * Binary64.one) 1 = m at hsome
  cases m with
  | none => exact absurd rfl hsome
  | some m => exact ⟨rfl, rfl⟩

theorem same_int_float (n : Int) (x : Binary64) : same (.int n) (.float x) = x.sameInt n := by
  cases x <;> rfl

theorem looseEquals_intText (n : Int) : (Value.int n).looseEquals (intText n) = true ↔ Binary64.IsRepresentable n := by
  rw [intText, looseEquals_text rfl, wholeNumberOf_shown, same_int_float]
  exact Binary64.sameInt_ofQuotient_iff

theorem intText_looseEquals (n : Int) : (intText n).looseEquals (.int n) = true ↔ Binary64.IsRepresentable n := by
  rw [looseEquals_comm rfl rfl, looseEquals_intText]

end Value

namespace Comparator

variable {comparator : Comparator} {v w : Value}

theorem holds_congr_left (horders : comparator.orders = true) (h : v.leadingNumber = w.leadingNumber)
    (right : Value) : comparator.holds v right = comparator.holds w right := by
  obtain ⟨test, htest, -⟩ := exists_order_of_orders horders
  rw [htest, order, order, h]

theorem holds_congr_right (horders : comparator.orders = true) (h : v.leadingNumber = w.leadingNumber)
    (left : Value) : comparator.holds left v = comparator.holds left w := by
  obtain ⟨test, htest, -⟩ := exists_order_of_orders horders
  rw [htest, order, order, h]

end Comparator

namespace Condition
open Value

/-- An integer within the range and its text start with the same number, and the one can stand for the other on either
side of an ordering. -/
theorem ordering_of_text {n : Int} (hn : n.natAbs < Binary64.integerLimit) :
    (∃ x : Binary64, x.isFinite = true ∧ (Value.int n).leadingNumber = .ok x ∧ (intText n).leadingNumber = .ok x) ∧
    ∀ (name : String) (comparator : Comparator), Comparator.ofName? name = some comparator →
      comparator.orders = true → ∀ (c c' : Condition) (inputs inputs' : Inputs) (other : Value),
        (c.Between inputs (.int n) other → c'.Between inputs' (intText n) other →
          (c.comparedBy name).holds inputs = (c'.comparedBy name).holds inputs') ∧
        (c.Between inputs other (.int n) → c'.Between inputs' other (intText n) →
          (c.comparedBy name).holds inputs = (c'.comparedBy name).holds inputs') := by
  obtain ⟨hint, hfinite⟩ := leadingNumber_int hn
  have htext := leadingNumber_intText n
  have hsame : (Value.int n).leadingNumber = (intText n).leadingNumber := hint.trans htext.symm
  refine ⟨⟨_, hfinite, hint, htext⟩, ?_⟩
  intro name comparator hname horders c c' inputs inputs' other
  constructor
  · intro h h'
    rw [h.holds hname, h'.holds hname]
    exact Comparator.holds_congr_left horders hsame other
  · intro h h'
    rw [h.holds hname, h'.holds hname]
    exact Comparator.holds_congr_right horders hsame other

/-- The integer and its text are both halfway between two numbers, and both rounded to the even one. -/
theorem ordering_of_halfway :
    (-9007199254740993 : Int).natAbs < Binary64.integerLimit ∧
    (∃ x : Binary64, x.isFinite = true ∧ (Value.int (-9007199254740993)).leadingNumber = .ok x ∧
      (intText (-9007199254740993)).leadingNumber = .ok x) ∧
    ((scoreIs (.text "-9007199254740992 lux")).comparedBy ">=").holds [("score", .int (-9007199254740993))] =
      .ok true ∧
    ((scoreIs (.text "-9007199254740992 lux")).comparedBy ">=").holds [("score", intText (-9007199254740993))] =
      .ok true ∧
    ((scoreIs (.int (-9007199254740993))).comparedBy "lessThan").holds [("score", .float (.ofDecimal true 1 16))] =
      .ok true ∧
    ((scoreIs (intText (-9007199254740993))).comparedBy "lessThan").holds
      [("score", .float (.ofDecimal true 1 16))] = .ok true := by
  have hn : (-9007199254740993 : Int).natAbs < Binary64.integerLimit := by decide +kernel
  have hbetween : ∀ a b : Value, (scoreIs b).Between [("score", a)] a b := fun _ _ => ⟨rfl, rfl⟩
  have hleft : ((scoreIs (.text "-9007199254740992 lux")).comparedBy ">=").holds
      [("score", .int (-9007199254740993))] = .ok true := by decide +kernel
  have hright : ((scoreIs (.int (-9007199254740993))).comparedBy "lessThan").holds
      [("score", .float (.ofDecimal true 1 16))] = .ok true := by decide +kernel
  obtain ⟨hread, hsides⟩ := ordering_of_text hn
  refine ⟨hn, hread, hleft, ?_, hright, ?_⟩
  · rw [← (hsides ">=" .atLeast rfl rfl _ _ _ _ _).1 (hbetween _ _) (hbetween _ _)]
    exact hleft
  · rw [← (hsides "lessThan" .less rfl rfl _ _ _ _ _).2 (hbetween _ _) (hbetween _ _)]
    exact hright

/-- An integer and its text are equal, whichever of them is the input, if and only if the integer is a number of
double precision: the text is rounded to one, and the integer is not. -/
theorem equality_of_text (n : Int) :
    (Binary64.IsRepresentable n ↔ ∃ x : Binary64, x.sameInt n = true) ∧
    ∀ name, Comparator.ofName? name = some .equal → ∀ (c : Condition) (inputs : Inputs),
      c.Between inputs (.int n) (intText n) ∨ c.Between inputs (intText n) (.int n) →
        ∃ passed, (c.comparedBy name).holds inputs = .ok passed ∧ (passed = true ↔ Binary64.IsRepresentable n) := by
  refine ⟨Binary64.exists_sameInt_iff.symm, ?_⟩
  rintro name hname c inputs (h | h)
  · exact ⟨_, h.holds hname, looseEquals_intText n⟩
  · exact ⟨_, h.holds hname, intText_looseEquals n⟩

/-- An integer of 54 bits, the last 52 of them zero. -/
theorem equality_of_even :
    Binary64.IsRepresentable (-13510798882111488) ∧
    ((scoreIs (intText (-13510798882111488))).comparedBy "==").holds [("score", .int (-13510798882111488))] =
      .ok true ∧
    ((scoreIs (.int (-13510798882111488))).comparedBy "equals").holds [("score", intText (-13510798882111488))] =
      .ok true := by
  have hbetween : ∀ a b : Value, (scoreIs b).Between [("score", a)] a b := fun _ _ => ⟨rfl, rfl⟩
  have hrepresentable : Binary64.IsRepresentable (-13510798882111488) :=
    ⟨by decide +kernel, 3, 52, by decide +kernel, by decide +kernel⟩
  obtain ⟨-, hequal⟩ := equality_of_text (-13510798882111488)
  refine ⟨hrepresentable, ?_, ?_⟩
  · obtain ⟨passed, hpassed, htrue⟩ := hequal "==" rfl _ _ (.inl (hbetween _ _))
    rw [hpassed, htrue.2 hrepresentable]
  · obtain ⟨passed, hpassed, htrue⟩ := hequal "equals" rfl _ _ (.inr (hbetween _ _))
    rw [hpassed, htrue.2 hrepresentable]

/-- An odd integer of 54 bits is not equal to its text, although neither is less than the other. -/
theorem oddInteger_not_equal :
    (Value.int 9007199254740993).shown = "9007199254740993" ∧
    ((scoreIs (intText 9007199254740993)).comparedBy "equals").holds [("score", .int 9007199254740993)] =
      .ok false ∧
    ((scoreIs (.int 9007199254740993)).comparedBy "==").holds [("score", intText 9007199254740993)] = .ok false ∧
    ((scoreIs (intText 9007199254740993)).comparedBy "<=").holds [("score", .int 9007199254740993)] = .ok true ∧
    ((scoreIs (intText 9007199254740993)).comparedBy ">=").holds [("score", .int 9007199254740993)] = .ok true := by
  decide +kernel

end Condition

end BlockRules
