import BlockRules.Rule.Validation

set_option autoImplicit false

namespace BlockRules

/-- What a warning reports. -/
def Warning.IsTrueOf (g : Graph) : Warning → Prop
  | unknownEnd e id => e ∈ g.edges ∧ (id = e.source ∨ id = e.target) ∧ g.hasNode id = false
  | looseCondition id =>
    (∃ c, (id, c) ∈ g.conditions) ∧ g.isConnected id = false ∧ 1 < g.nodes.length
  | looseAction id => (∃ a, (id, a) ∈ g.actions) ∧ g.isConnected id = false ∧ g.conditions ≠ []
  | unsupportedType id type =>
    ∃ o, (id, o) ∈ g.operators ∧ Connective.ofName? o.resolvedType = none ∧ o.resolvedType = type
  | cycle ids => g.findCycle = some ids

namespace Graph

theorem mem_warnings {g : Graph} {w : Warning} : w ∈ g.warnings ↔ w.IsTrueOf g := by
  simp only [warnings, unknownEnds, looseConditions, looseActions, unsupportedTypes, List.mem_append,
    List.mem_flatMap, List.mem_map, List.mem_filter, Option.mem_toList, Option.map_eq_some_iff]
  cases w with
  | unknownEnd | looseCondition | looseAction | cycle => simp [Warning.IsTrueOf]
  | unsupportedType id type =>
    constructor
    · simp only [Prod.exists, Option.isNone_iff_eq_none, Warning.unsupportedType.injEq, reduceCtorEq, and_false,
        exists_false, false_or, or_false]
      rintro ⟨_, o, ⟨ho, hnone⟩, rfl, htype⟩
      exact ⟨o, ho, hnone, htype⟩
    · rintro ⟨o, ho, hnone, rfl⟩
      refine .inl (.inr ⟨(id, o), ⟨ho, ?_⟩, rfl⟩)
      rw [hnone, Option.isNone_none]

end Graph

end BlockRules
