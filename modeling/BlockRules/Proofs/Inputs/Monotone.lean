import BlockRules.Proofs.Walk.Firing
import BlockRules.Proofs.Walk.Visit
import Mathlib.Data.List.Flatten

set_option autoImplicit false

/-!
# More inputs, more actions

Without operators that negate or count, a rule is monotone: where more conditions hold, more blocks pass, every
route stays one, and the actions that fired still fire, in their order. A condition without its input does
not hold, so that taking inputs away can only silence actions.
-/
namespace BlockRules

/-- All values of the first are in the second, under the same names. -/
def Inputs.Within (inputs inputs' : Inputs) : Prop :=
  ∀ name v, inputs.lookup name = some v → inputs'.lookup name = some v

theorem Condition.holds_of_within {c : Condition} {inputs inputs' : Inputs}
    (hwithin : inputs.Within inputs') (h : c.holds inputs = .ok true) :
    c.holds inputs' = .ok true := by
  rw [holds] at h
  cases hread : c.input?.bind fun name => inputs.lookup name with
  | none =>
    rw [hread] at h
    cases h
  | some actual =>
    obtain ⟨name, hname, hactual⟩ := Option.bind_eq_some_iff.1 hread
    have hread' : (c.input?.bind fun name => inputs'.lookup name) = some actual :=
      Option.bind_eq_some_iff.2 ⟨name, hname, hwithin name actual hactual⟩
    rw [holds, hread', ← h, hread]

namespace Graph
open Gathering

variable {g : Graph} {inputs inputs' : Inputs}

/-- The conditions of a rule that hold with the first inputs hold with the second as well, where none
of them fails. -/
structure HoldsMore (g : Graph) (inputs inputs' : Inputs) : Prop where
  holds : ∀ c ∈ g.conditions, c.2.holds inputs = .ok true → c.2.holds inputs' = .ok true
  returns : ∀ c ∈ g.conditions, ∃ passed, c.2.holds inputs' = .ok passed

theorem opens_iff {id : String} : g.opens inputs id = true ↔
    (∃ c, g.block? id = some (.condition c) ∧ c.test inputs = .ok true) ∨
      ∃ o, g.block? id = some (.operator o) ∧ g.operatorPasses inputs id o = .ok true := by
  rw [opens]
  cases hb : g.block? id with
  | none => simp
  | some b =>
    cases b with
    | action a => simp
    | condition c => rcases htest : c.test inputs with e | _ | _ <;> simp [htest]
    | operator o => rcases hpasses : g.operatorPasses inputs id o with e | _ | _ <;> simp [hpasses]

theorem HoldsMore.operandHolds (h : g.HoldsMore inputs inputs') {id : String}
    (hs : g.operandHolds inputs id = .ok true) : g.operandHolds inputs' id = .ok true := by
  rw [Graph.operandHolds] at hs ⊢
  split at hs
  · exact h.holds _ (mem_conditions_of_block? ‹_›) hs
  · cases hs

theorem HoldsMore.operandHolds_returns (h : g.HoldsMore inputs inputs') (id : String) :
    ∃ passed, g.operandHolds inputs' id = .ok passed := by
  rw [Graph.operandHolds]
  split
  · exact h.returns _ (mem_conditions_of_block? ‹_›)
  · exact ⟨false, rfl⟩

theorem operatorPasses_eq_true_iff {id : String} {o : Operator} (hnot : o.resolvedType ≠ "NOT")
    (hxor : o.resolvedType ≠ "XOR") : g.operatorPasses inputs id o = .ok true ↔
      ∃ results, g.operandResults inputs id = .ok results ∧
        (o.resolvedType = "AND" ∧ false ∉ results ∨ o.resolvedType = "OR" ∧ true ∈ results) := by
  have hsatisfy : ∀ results, operandsSatisfy o.resolvedType results = true ↔
      o.resolvedType = "AND" ∧ false ∉ results ∨ o.resolvedType = "OR" ∧ true ∈ results := by
    intro results
    rw [operandsSatisfy, if_neg hnot, if_neg hxor]
    by_cases hand : o.resolvedType = "AND"
    · simp [hand]
    · by_cases hor : o.resolvedType = "OR" <;> simp [hand, hor]
  rw [operatorPasses_eq, operandResults_eq]
  cases g.operands inputs id with
  | error e => simp [Except.map]
  | ok results => simp [Except.map, hsatisfy]

theorem HoldsMore.operatorPasses (h : g.HoldsMore inputs inputs') {id : String} {o : Operator}
    (hnot : o.resolvedType ≠ "NOT") (hxor : o.resolvedType ≠ "XOR")
    (hs : g.operatorPasses inputs id o = .ok true) : g.operatorPasses inputs' id o = .ok true := by
  obtain ⟨results, hresults, hpass⟩ := (operatorPasses_eq_true_iff hnot hxor).1 hs
  obtain ⟨results', hresults'⟩ : ∃ results', g.operandResults inputs' id = .ok results' :=
    exists_mapM_ok_iff.2 fun e _ => h.operandHolds_returns e.source
  refine (operatorPasses_eq_true_iff hnot hxor).2 ⟨results', hresults', ?_⟩
  have hmem := mem_of_mapM_ok hresults
  have hmem' := mem_of_mapM_ok hresults'
  obtain ⟨hand, hall⟩ | ⟨hor, hany⟩ := hpass
  · refine .inl ⟨hand, fun hfalse => ?_⟩
    obtain ⟨e, he, hfails⟩ := (hmem' false).1 hfalse
    -- The operand had a result with the first inputs too, which was true.
    obtain ⟨passed, hpassed⟩ := exists_mapM_ok_iff.1 ⟨results, hresults⟩ e he
    cases passed with
    | false => exact hall ((hmem false).2 ⟨e, he, hpassed⟩)
    | true =>
      rw [h.operandHolds hpassed] at hfails
      cases hfails
  · obtain ⟨e, he, hholds⟩ := (hmem true).1 hany
    exact .inr ⟨hor, (hmem' true).2 ⟨e, he, h.operandHolds hholds⟩⟩

theorem HoldsMore.opens (h : g.HoldsMore inputs inputs')
    (hmono : ∀ o ∈ g.operators, o.2.resolvedType ≠ "NOT" ∧ o.2.resolvedType ≠ "XOR") {id : String}
    (hs : g.opens inputs id = true) : g.opens inputs' id = true := by
  obtain ⟨c, hc, htest⟩ | ⟨o, ho, hpass⟩ := opens_iff.1 hs
  · obtain ⟨hholds, hlong⟩ := Condition.test_eq_ok_iff.1 htest
    have hholds' := h.holds _ (mem_conditions_of_block? hc) hholds
    exact opens_iff.2 (.inl ⟨c, hc, Condition.test_eq_ok_iff.2 ⟨hholds', hlong⟩⟩)
  · obtain ⟨hnot, hxor⟩ := hmono _ (mem_operators_of_block? ho)
    exact opens_iff.2 (.inr ⟨o, ho, h.operatorPasses hnot hxor hpass⟩)

theorem routes_action {path : List String} {id : String} {n : Node} {a : Action}
    (hn : g.node? id = some n) (hid : id ∉ path) (ha : n.block = .action a) :
    g.routes inputs path id = [⟨[], id, a⟩] := by
  rw [routes]
  split <;> simp_all

theorem routes_opened {path : List String} {id : String} (hid : id ∉ path)
    (hopen : g.opens inputs id = true) : g.routes inputs path id =
      (g.exits id).flatMap fun x => (g.routes inputs (id :: path) x.1.target).map (.via x.2) := by
  obtain ⟨b, hb⟩ : ∃ b, g.block? id = some b := by
    obtain ⟨c, hc, -⟩ | ⟨o, ho, -⟩ := opens_iff.1 hopen
    · exact ⟨_, hc⟩
    · exact ⟨_, ho⟩
  obtain ⟨n, hn, -⟩ := Option.map_eq_some_iff.1 hb
  rw [routes]
  split
  · simp_all
  · rw [dif_neg hid]
    split
    · rename_i a ha
      rw [opens_eq_false_of_action (ha ▸ block?_of_node? ‹_›)] at hopen
      cases hopen
    · rw [if_pos hopen]

/-- Where more blocks pass there are more routes, and those that there were keep their order. -/
theorem routes_sublist (h : ∀ id, g.opens inputs id = true → g.opens inputs' id = true)
    (path : List String) (id : String) :
    (g.routes inputs path id).Sublist (g.routes inputs' path id) := by
  fun_induction routes g inputs path id with
  | case1 | case2 | case5 => exact List.nil_sublist _
  | case3 path id n hn hid a ha => rw [routes_action hn hid ha]
  | case4 path id n hn hid hopen hb ih =>
    rw [routes_opened hid (h id hopen)]
    exact List.Sublist.flatMap_right _ fun x _ => (ih x).map _

theorem firings_sublist (h : ∀ id, g.opens inputs id = true → g.opens inputs' id = true) :
    (g.firings inputs).Sublist (g.firings inputs') :=
  List.Sublist.flatMap_right _ fun x _ => (routes_sublist h [] x.1.id).map _

/-- Where more conditions hold, the actions that fired still fire, in their order. -/
theorem actions_sublist_of_holdsMore (g : Graph)
    (hmono : ∀ o ∈ g.operators, o.2.resolvedType ≠ "NOT" ∧ o.2.resolvedType ≠ "XOR")
    {inputs inputs' : Inputs} {e e' : Evaluation} (he : g.evaluate inputs = .ok e)
    (he' : g.evaluate inputs' = .ok e')
    (hreturns : ∀ c ∈ g.conditions, ∃ passed, c.2.holds inputs' = .ok passed)
    (hholds : inputs.Within inputs' ∨
      ∀ c ∈ g.conditions, c.2.holds inputs = .ok true → c.2.holds inputs' = .ok true) :
    e.actions.Sublist e'.actions ∧ (e.matched = true → e'.matched = true) := by
  have hmore : g.HoldsMore inputs inputs' := by
    refine ⟨fun c hc h => ?_, hreturns⟩
    obtain hwithin | hholds := hholds
    · exact Condition.holds_of_within hwithin h
    · exact hholds c hc h
  have hfirings := firings_sublist fun _ hs => hmore.opens hmono hs
  obtain ⟨hactions, hmatched⟩ := evaluate_report he
  obtain ⟨hactions', hmatched'⟩ := evaluate_report he'
  rw [hactions, hactions', hmatched, hmatched']
  refine ⟨hfirings.map _, fun hsome => ?_⟩
  cases hfired : g.firings inputs with
  | nil =>
    rw [hfired] at hsome
    cases hsome
  | cons f rest =>
    rw [hfired] at hfirings
    have hmem := hfirings.mem List.mem_cons_self
    rw [Bool.not_eq_true', List.isEmpty_eq_false_iff]
    exact List.ne_nil_of_mem hmem

def doorInputs : Inputs := [("door", .int 1)]

def doorEvaluation : Evaluation := .ofSteps
  [⟨"door", .condition true, "door === 1", 0⟩, ⟨"either", .operator true, "OR", 1⟩,
    ⟨"still", .condition false, "stove > 1", 2⟩, ⟨"alarm", .action, "Ring", 2⟩,
    ⟨"alarm", .action, "Ring", 2⟩, ⟨"stove", .condition false, "stove === 2", 0⟩]

theorem loopedAlarm_without_stove : doorInputs.Within loopedInputs ∧
    loopedAlarm.evaluate doorInputs = .ok doorEvaluation ∧
    loopedAlarm.evaluate loopedInputs = .ok loopedEvaluation ∧
    doorEvaluation.actions = ["Ring", "Ring"] ∧
    loopedEvaluation.actions = ["Ring", "Ring", "Ring", "Ring"] ∧
    doorEvaluation.actions.Sublist loopedEvaluation.actions ∧
    (doorEvaluation.matched = true → loopedEvaluation.matched = true) := by
  have hwithin : doorInputs.Within loopedInputs := by
    intro name v h
    by_cases hname : name = "door"
    · subst hname
      exact h
    · simp [doorInputs, List.lookup_cons, beq_false_of_ne hname] at h
  have hevaluate : loopedAlarm.evaluate doorInputs = .ok doorEvaluation := by decide +kernel
  have hresults : (loopedAlarm.conditions.map fun c => c.2.holds loopedInputs) =
      List.replicate 3 (.ok true) := by decide +kernel
  have hreturns : ∀ c ∈ loopedAlarm.conditions, ∃ passed, c.2.holds loopedInputs = .ok passed := by
    intro c hc
    have hmem := List.mem_map_of_mem (f := fun c => c.2.holds loopedInputs) hc
    rw [hresults] at hmem
    exact ⟨true, List.eq_of_mem_replicate hmem⟩
  have hmono : ∀ o ∈ loopedAlarm.operators, o.2.resolvedType ≠ "NOT" ∧ o.2.resolvedType ≠ "XOR" := by
    decide +kernel
  have hsublist := actions_sublist_of_holdsMore loopedAlarm hmono hevaluate loopedAlarm_evaluate
    hreturns (.inl hwithin)
  exact ⟨hwithin, hevaluate, loopedAlarm_evaluate, rfl, rfl, hsublist⟩

end Graph

end BlockRules
