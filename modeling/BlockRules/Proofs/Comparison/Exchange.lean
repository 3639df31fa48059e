import BlockRules.Proofs.Comparison.Kinds

set_option autoImplicit false

namespace BlockRules

namespace Value

theorem isJson_convertedFor {kind : Kind} {v : Value} (h : v.isJson = true) : (v.convertedFor kind).isJson = true := by
  unfold convertedFor
  split
  · split <;> rfl
  · split <;> rfl
  · exact h

theorem looseEquals_comm {left right : Value} (hleft : left.isJson = true) (hright : right.isJson = true) :
    left.looseEquals right = right.looseEquals left := by
  rw [looseEquals_eq_same, looseEquals_eq_same]
  exact same_comm (isJson_convertedFor hleft) (isJson_convertedFor hright)

theorem looseEquals_self {v : Value} (hjson : v.isJson = true) (hnan : v.hasNan = false) :
    v.looseEquals v = true := by
  rw [looseEquals_eq_same, convertedFor_own_kind]
  exact same_self v hjson hnan

end Value

namespace Comparator

/-- The names of the comparisons that loose equality decides. -/
def equalityNames : List String := ["equals", "==", "notEquals", "!="]

theorem holds_of_equalityName {name : String} (h : name ∈ equalityNames) :
    ∃ comparator negated, ofName? name = some comparator ∧
      ∀ left right, comparator.holds left right = .ok (left.looseEquals right != negated) := by
  simp only [equalityNames, List.mem_cons, List.not_mem_nil, or_false] at h
  obtain rfl | rfl | rfl | rfl := h
  · exact ⟨equal, false, rfl, fun left right => by rw [Bool.bne_false]; rfl⟩
  · exact ⟨equal, false, rfl, fun left right => by rw [Bool.bne_false]; rfl⟩
  · exact ⟨notEqual, true, rfl, fun left right => by rw [Bool.bne_true]; rfl⟩
  · exact ⟨notEqual, true, rfl, fun left right => by rw [Bool.bne_true]; rfl⟩

end Comparator

namespace Condition

/-- Loose equality of data of JSON does not depend on the order of the two values, and one without nan equals itself.
So two conditions, each of which reads the value that the other compares with, have the same answer by equality. -/
theorem equality_of_exchanged :
    (∀ left right : Value, left.isJson = true → right.isJson = true →
      left.looseEquals right = right.looseEquals left) ∧
    (∀ v : Value, v.isJson = true → v.hasNan = false → v.looseEquals v = true) ∧
    ∀ (c c' : Condition) (inputs inputs' : Inputs), c.value.isJson = true → c'.value.isJson = true →
      c.actual? inputs = some c'.value → c'.actual? inputs' = some c.value →
      ∀ name ∈ Comparator.equalityNames, ∃ passed,
        (c.comparedBy name).holds inputs = .ok passed ∧ (c'.comparedBy name).holds inputs' = .ok passed := by
  refine ⟨fun _ _ => Value.looseEquals_comm, fun _ => Value.looseEquals_self, ?_⟩
  intro c c' inputs inputs' hjson hjson' hactual hactual' name hname
  obtain ⟨comparator, negated, hcomparator, hholds⟩ := Comparator.holds_of_equalityName hname
  refine ⟨c.value.looseEquals c'.value != negated, ?_, ?_⟩
  · rw [holds_comparedBy c inputs name hcomparator, hactual, Option.elim_some, hholds]
    rw [Value.looseEquals_comm hjson' hjson]
  · rw [holds_comparedBy c' inputs' name hcomparator, hactual', Option.elim_some, hholds]

def readingFields : List (Scalar × Value) :=
  [(.text "at", .list [.float (.ofDecimal false 25 (-1)), .null]), (.text "unit", .text "lux"),
    (.text "valid", .bool true)]

/-- The number equals the text and the text the number; an object equals itself, and with its fields in another order
it is equal or not whichever is on the left. -/
theorem scoreIs_exchanged :
    (((scoreIs (.text " 2e1 ")).comparedBy "equals").holds [("score", .int 20)] = .ok true ∧
      ((scoreIs (.int 20)).comparedBy "equals").holds [("score", .text " 2e1 ")] = .ok true) ∧
    (Value.object readingFields.reverse).looseEquals (.object readingFields) =
      (Value.object readingFields).looseEquals (.object readingFields.reverse) ∧
    (Value.object readingFields).looseEquals (.object readingFields) = true := by
  have hequal : ((scoreIs (.text " 2e1 ")).comparedBy "equals").holds [("score", .int 20)] = .ok true := by
    decide +kernel
  obtain ⟨passed, h, h'⟩ := equality_of_exchanged.2.2 (scoreIs (.text " 2e1 ")) (scoreIs (.int 20))
    [("score", .int 20)] [("score", .text " 2e1 ")] rfl rfl rfl rfl "equals" (by decide)
  rw [hequal] at h
  cases h
  refine ⟨⟨hequal, h'⟩, ?_, ?_⟩
  · exact equality_of_exchanged.1 _ _ (by decide +kernel) (by decide +kernel)
  · exact equality_of_exchanged.2.1 _ (by decide +kernel) (by decide +kernel)

end Condition

end BlockRules
