import BlockRules.Comparison.Comparator
import BlockRules.Proofs.Gathering
import BlockRules.Proofs.Number.Range

set_option autoImplicit false

/-!
# Comparisons that fail

A comparison has a result except in two cases. Ordering fails where one side is an integer beyond the range of
numbers, and searching where one side holds an integer that is too long to be written. All other values are
compared, and a value that is not read as a number makes ordering false.
-/
namespace BlockRules
open Gathering

namespace Value

def IsHuge (v : Value) : Prop := ∃ n : Int, v = .int n ∧ Binary64.integerLimit ≤ n.natAbs

theorem numberOfInt_eq_elim (n : Int) :
    numberOfInt n = (Binary64.ofInt? n).elim (.error .integerTooLarge) .ok := by
  -- Unfolded under the binder: a match on the number itself would be computed.
  have h : numberOfInt = fun n => (Binary64.ofInt? n).elim (.error .integerTooLarge) .ok := by
    delta numberOfInt
    funext n
    cases Binary64.ofInt? n <;> rfl
  exact congrFun h n

theorem numberOfInt_eq_error_iff {n : Int} {e : ComparisonError} :
    numberOfInt n = .error e ↔ Binary64.integerLimit ≤ n.natAbs ∧ e = .integerTooLarge := by
  rw [numberOfInt_eq_elim, ← Binary64.ofInt?_eq_none_iff]
  cases Binary64.ofInt? n with
  | none => simp [eq_comm]
  | some x => simp

theorem leadingNumber_eq_error_iff {v : Value} {e : ComparisonError} :
    v.leadingNumber = .error e ↔ v.IsHuge ∧ e = .integerTooLarge := by
  by_cases hint : ∃ n, v = .int n
  · obtain ⟨n, rfl⟩ := hint
    rw [leadingNumber, numberOfInt_eq_error_iff]
    simp [IsHuge]
  · have hhuge : ¬ v.IsHuge := fun ⟨n, hn, _⟩ => hint ⟨n, hn⟩
    refine iff_of_false ?_ fun h => hhuge h.1
    unfold leadingNumber
    split
    · exact absurd ⟨_, rfl⟩ hint
    all_goals
      intro h
      cases h

theorem search_eq_error_iff {left right : Value} {e : ComparisonError} :
    left.search right = .error e ↔ left.areSearched right = true ∧
      (left.hasLongInteger = true ∨ right.hasLongInteger = true) ∧ e = .integerTooLong := by
  have hlong : (left.areSearched right && (left.hasLongInteger || right.hasLongInteger)) = true ↔
      left.areSearched right = true ∧ (left.hasLongInteger = true ∨ right.hasLongInteger = true) := by
    rw [Bool.and_eq_true, Bool.or_eq_true]
  rw [search, ← and_assoc, ← hlong]
  split
  · rw [Except.error.injEq, eq_comm, and_iff_right ‹_›]
  · refine iff_of_false ?_ fun h => absurd h.1 ‹_›
    intro h
    cases h

end Value

namespace Comparator

def orders : Comparator → Bool
  | greater | less | atLeast | atMost => true
  | equal | notEqual | identical | notIdentical | contains => false

inductive Fails : Comparator → Value → Value → ComparisonError → Prop where
  | tooLarge {comparator : Comparator} {left right : Value} (orders : comparator.orders = true)
      (huge : left.IsHuge ∨ right.IsHuge) : Fails comparator left right .integerTooLarge
  | tooLong {left right : Value} (searched : left.areSearched right = true)
      (long : left.hasLongInteger = true ∨ right.hasLongInteger = true) :
      Fails .contains left right .integerTooLong

theorem order_eq_error_iff {test : Binary64 → Binary64 → Bool} {left right : Value}
    {e : ComparisonError} : order test left right = .error e ↔
      (left.IsHuge ∨ right.IsHuge) ∧ e = .integerTooLarge := by
  have hleft := @Value.leadingNumber_eq_error_iff left
  have hright := @Value.leadingNumber_eq_error_iff right
  rw [order]
  cases hx : left.leadingNumber with
  | error e' =>
    obtain ⟨hhuge, rfl⟩ := hleft.1 hx
    simp [hhuge, bind, Except.bind, eq_comm]
  | ok x =>
    have hsmall : ¬ left.IsHuge := fun hhuge => by
      rw [hleft.2 ⟨hhuge, rfl⟩] at hx
      cases hx
    simp only [hsmall, false_or, ← hright]
    cases right.leadingNumber <;> simp [bind, Except.bind, pure, Except.pure]

theorem exists_order_of_orders {comparator : Comparator} (h : comparator.orders = true) :
    ∃ test : Binary64 → Binary64 → Bool, comparator.holds = order test ∧
      (∀ y, test .nan y = false) ∧ ∀ x, test x .nan = false := by
  cases comparator <;> cases h
  · exact ⟨fun x y => y.less x, rfl, fun y => by cases y <;> rfl, fun x => rfl⟩
  · exact ⟨Binary64.less, rfl, fun y => rfl, fun x => by cases x <;> rfl⟩
  · exact ⟨fun x y => y.atMost x, rfl, fun y => by cases y <;> rfl, fun x => rfl⟩
  · exact ⟨Binary64.atMost, rfl, fun y => rfl, fun x => by cases x <;> rfl⟩

theorem holds_eq_error_iff {comparator : Comparator} {left right : Value} {e : ComparisonError} :
    comparator.holds left right = .error e ↔ comparator.Fails left right e := by
  constructor
  · intro h
    cases horders : comparator.orders with
    | true =>
      obtain ⟨test, htest, -⟩ := exists_order_of_orders horders
      rw [htest, order_eq_error_iff] at h
      obtain ⟨hhuge, rfl⟩ := h
      exact .tooLarge horders hhuge
    | false =>
      cases comparator <;> cases horders <;> try cases h
      obtain ⟨hsearched, hlong, rfl⟩ := Value.search_eq_error_iff.1 h
      exact .tooLong hsearched hlong
  · rintro (⟨horders, hhuge⟩ | ⟨hsearched, hlong⟩)
    · obtain ⟨test, htest, -⟩ := exists_order_of_orders horders
      rw [htest]
      exact order_eq_error_iff.2 ⟨hhuge, rfl⟩
    · exact Value.search_eq_error_iff.2 ⟨hsearched, hlong, rfl⟩

theorem exists_holds_iff {comparator : Comparator} {left right : Value} :
    (∃ passed, comparator.holds left right = .ok passed) ↔
      ∀ e, ¬ comparator.Fails left right e := by
  simp only [← holds_eq_error_iff]
  cases comparator.holds left right <;> simp

theorem holds_eq_false_of_nan {comparator : Comparator} {left right : Value}
    (horders : comparator.orders = true) (hfails : ∀ e, ¬ comparator.Fails left right e)
    (hnan : left.leadingNumber = .ok .nan ∨ right.leadingNumber = .ok .nan) :
    comparator.holds left right = .ok false := by
  obtain ⟨passed, h⟩ := exists_holds_iff.2 hfails
  obtain ⟨test, htest, hleft, hright⟩ := exists_order_of_orders horders
  rw [htest, order] at h ⊢
  obtain ⟨x, hx, h⟩ := exists_of_bind_ok h
  obtain ⟨y, hy, h⟩ := exists_of_bind_ok h
  rw [hx, hy] at hnan ⊢
  obtain hnan | hnan := hnan
  · cases hnan
    exact congrArg Except.ok (hleft y)
  · cases hnan
    exact congrArg Except.ok (hright x)

end Comparator

namespace Condition

/-- A condition compares an input with its own value, if it has the input and its comparison is
known. -/
def Compares (c : Condition) (inputs : Inputs) (comparator : Comparator) (actual : Value) : Prop :=
  (∃ name, c.input? = some name ∧ inputs.lookup name = some actual) ∧
    Comparator.ofName? (c.operator.getD "") = some comparator

def Fails (c : Condition) (inputs : Inputs) (e : ComparisonError) : Prop :=
  ∃ comparator actual, c.Compares inputs comparator actual ∧ comparator.Fails actual c.value e

variable {c : Condition} {inputs : Inputs}

theorem holds_of_compares {comparator : Comparator} {actual : Value}
    (h : c.Compares inputs comparator actual) :
    c.holds inputs = comparator.holds actual c.value := by
  obtain ⟨⟨name, hname, hactual⟩, hcomparator⟩ := h
  have hread : (c.input?.bind fun name => inputs.lookup name) = some actual :=
    Option.bind_eq_some_iff.2 ⟨name, hname, hactual⟩
  rw [holds, hread, hcomparator]

theorem holds_of_not_compares (h : ∀ comparator actual, ¬ c.Compares inputs comparator actual) :
    c.holds inputs = .ok false := by
  rw [holds]
  split
  · rfl
  · split
    · rfl
    · exact absurd ⟨Option.bind_eq_some_iff.1 ‹_›, ‹_›⟩ (h _ _)

/-- A condition has a result if and only if its comparison does not fail. -/
theorem exists_holds_iff :
    (∃ passed, c.holds inputs = .ok passed) ↔ ∀ e, ¬ c.Fails inputs e := by
  by_cases h : ∃ comparator actual, c.Compares inputs comparator actual
  · obtain ⟨comparator, actual, hcompares⟩ := h
    rw [holds_of_compares hcompares, Comparator.exists_holds_iff]
    refine forall_congr' fun e => not_congr ⟨fun hfails => ⟨_, _, hcompares, hfails⟩, ?_⟩
    rintro ⟨comparator', actual', hcompares', hfails⟩
    obtain ⟨⟨name, hname, hactual⟩, hcomparator⟩ := hcompares
    obtain ⟨⟨name', hname', hactual'⟩, hcomparator'⟩ := hcompares'
    cases hname.symm.trans hname'
    cases hactual.symm.trans hactual'
    cases hcomparator.symm.trans hcomparator'
    exact hfails
  · simp only [not_exists] at h
    refine iff_of_true ⟨false, holds_of_not_compares h⟩ ?_
    rintro e ⟨comparator, actual, hcompares, -⟩
    exact h comparator actual hcompares

/-- An ordering with a side that is not read as a number. -/
def OrdersNaN (c : Condition) (inputs : Inputs) : Prop :=
  ∃ comparator actual, c.Compares inputs comparator actual ∧ comparator.orders = true ∧
    (actual.leadingNumber = .ok .nan ∨ c.value.leadingNumber = .ok .nan)

theorem holds_eq_false_of_ordersNaN (h : c.OrdersNaN inputs) (hfails : ∀ e, ¬ c.Fails inputs e) :
    c.holds inputs = .ok false := by
  obtain ⟨comparator, actual, hcompares, horders, hnan⟩ := h
  rw [holds_of_compares hcompares]
  exact Comparator.holds_eq_false_of_nan horders (fun e he => hfails e ⟨_, _, hcompares, he⟩) hnan

theorem exists_test_iff : (∃ passed, c.test inputs = .ok passed) ↔
    (∀ e, ¬ c.Fails inputs e) ∧ c.value.hasLongInteger = false := by
  simp only [test_eq_ok_iff, exists_and_right, exists_holds_iff]

end Condition

end BlockRules
