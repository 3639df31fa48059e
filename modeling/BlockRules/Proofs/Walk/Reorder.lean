import BlockRules.Proofs.Walk.Firing
import BlockRules.Proofs.Walk.Visit
import Mathlib.Data.List.Find
import Mathlib.Data.List.Nodup

set_option autoImplicit false

namespace BlockRules

theorem operandsSatisfy_of_perm {type : String} {operands operands' : List Bool}
    (h : operands'.Perm operands) :
    operandsSatisfy type operands' = operandsSatisfy type operands := by
  simp only [operandsSatisfy, h.mem_iff, h.count_eq]

theorem Evaluation.ofSteps_of_perm {steps steps' : List Step} (h : steps'.Perm steps) :
    (ofSteps steps').matched = (ofSteps steps).matched ∧
      (ofSteps steps').actions.Perm (ofSteps steps).actions := by
  have hactions : (ofSteps steps').actions.Perm (ofSteps steps).actions := (h.filter _).map _
  exact ⟨congrArg (! ·) hactions.isEmpty_eq, hactions⟩

namespace Graph
open Gathering

/-- The same nodes and edges in another order, where each identifier means one node. -/
structure Reordered (g g' : Graph) : Prop where
  distinct : (g.nodes.map (·.id)).Nodup
  nodes : g.nodes.Perm g'.nodes
  edges : g.edges.Perm g'.edges

namespace Reordered

variable {g g' : Graph} {inputs : Inputs}

theorem symm (h : Reordered g g') : Reordered g' g where
  distinct := (h.nodes.map _).nodup_iff.1 h.distinct
  nodes := h.nodes.symm
  edges := h.edges.symm

theorem node?_eq (h : Reordered g g') (id : String) : g'.node? id = g.node? id := by
  refine (List.find?_eq_find?_of_perm h.nodes ?_).symm
  rintro n ⟨hn, hid⟩ m ⟨hm, hid'⟩
  exact List.inj_on_of_nodup_map h.distinct hn hm ((eq_of_beq hid).trans (eq_of_beq hid').symm)

theorem outgoing (h : Reordered g g') (id : String) : (g.outgoing id).Perm (g'.outgoing id) :=
  h.edges.filter _

theorem incoming (h : Reordered g g') (id : String) : (g.incoming id).Perm (g'.incoming id) :=
  h.edges.filter _

theorem roots (h : Reordered g g') : g.roots.Perm g'.roots := by
  have hroot : (fun n : Node => !g'.edges.any fun e => e.target == n.id) =
      fun n => !g.edges.any fun e => e.target == n.id := by
    funext n
    rw [h.edges.any_eq]
  rw [Graph.roots, Graph.roots, hroot]
  exact h.nodes.filter _

theorem operandHolds_eq (h : Reordered g g') (id : String) :
    g'.operandHolds inputs id = g.operandHolds inputs id := by
  rw [operandHolds, operandHolds, block?, block?, h.node?_eq]

theorem operatorPasses (h : Reordered g g') {id : String} {o : Operator} {passed : Bool}
    (hpasses : g.operatorPasses inputs id o = .ok passed) :
    g'.operatorPasses inputs id o = .ok passed := by
  rw [operatorPasses_eq, ← operandResults_eq, operandResults] at hpasses ⊢
  obtain ⟨operands, hoperands, rfl⟩ := exists_of_map_ok hpasses
  obtain ⟨operands', hoperands', hperm⟩ := exists_mapM_of_perm (h.incoming id) hoperands
  simp only [h.operandHolds_eq]
  rw [hoperands']
  exact congrArg Except.ok (operandsSatisfy_of_perm hperm)

theorem enter (h : Reordered g g') {id : String} {block : Block} {depth : Nat} {s : Step}
    (hs : g.enter inputs id block depth = .ok s) : g'.enter inputs id block depth = .ok s := by
  obtain ⟨a, rfl, -⟩ | ⟨c, passed, rfl, -, -⟩ | ⟨o, passed, rfl, hpasses, rfl⟩ :=
    enter_cases g inputs hs
  · exact hs
  · exact hs
  · rw [Graph.enter, h.operatorPasses hpasses]
    rfl

/-- A branch that does not fail does not fail in another order either, and leaves the same steps. -/
theorem branch (h : Reordered g g') (path : List String) (id : String) {steps : List Step}
    (hsteps : g.branch inputs path id = .ok steps) :
    ∃ steps', g'.branch inputs path id = .ok steps' ∧ steps'.Perm steps := by
  induction path, id, steps, hsteps using branch_induct with
  | unknown path id hn =>
    exact ⟨[], branch_unknown g' inputs ((h.node?_eq id).trans hn), .refl _⟩
  | repeated path id n hn hid =>
    exact ⟨_, branch_repeated g' inputs ((h.node?_eq id).trans hn) hid, .refl _⟩
  | stopped path id n s hn hid hs hpass =>
    have hn' : g'.node? id = some n := (h.node?_eq id).trans hn
    exact ⟨[s], branch_stopped g' inputs hn' hid (h.enter hs) hpass, .refl _⟩
  | passed path id n s below hn hid hs hpass hbelow ih =>
    have hn' : g'.node? id = some n := (h.node?_eq id).trans hn
    obtain ⟨below', hbelow', hperm⟩ := exists_flatMapM_of_perm (h.outgoing id) ih hbelow
    refine ⟨s :: below', ?_, hperm.cons s⟩
    rw [branch_passed g' inputs hn' hid (h.enter hs) hpass, hbelow']
    rfl

theorem evaluate (h : Reordered g g') {e : Evaluation} (he : g.evaluate inputs = .ok e) :
    ∃ e', g'.evaluate inputs = .ok e' ∧
      e'.matched = e.matched ∧ e'.actions.Perm e.actions ∧ e'.steps.Perm e.steps := by
  rw [evaluate_eq_flatMapM] at he ⊢
  obtain ⟨steps, hsteps, rfl⟩ := exists_of_map_ok he
  obtain ⟨steps', hsteps', hperm⟩ :=
    exists_flatMapM_of_perm h.roots (fun root _ _ => h.branch [] root.id) hsteps
  obtain ⟨hmatched, hactions⟩ := Evaluation.ofSteps_of_perm hperm
  exact ⟨.ofSteps steps', congrArg (Except.map Evaluation.ofSteps) hsteps', hmatched, hactions, hperm⟩

theorem fails_iff (h : Reordered g g') :
    (∃ err, g'.evaluate inputs = .error err) ↔ ∃ err, g.evaluate inputs = .error err := by
  rw [exists_error_iff, exists_error_iff, not_iff_not]
  constructor
  · rintro ⟨e', he'⟩
    obtain ⟨e, he, -⟩ := h.symm.evaluate he'
    exact ⟨e, he⟩
  · rintro ⟨e, he⟩
    obtain ⟨e', he', -⟩ := h.evaluate he
    exact ⟨e', he'⟩

end Reordered

/-- Rules with the same nodes, each of its own identifier, and the same edges fail on the same inputs,
and otherwise report the same actions and leave the same steps, up to order. -/
theorem evaluate_reordered {g g' : Graph} (inputs : Inputs)
    (hdistinct : (g.nodes.map (·.id)).Nodup) (hnodes : g'.nodes.Perm g.nodes)
    (hedges : g'.edges.Perm g.edges) :
    ((∃ err, g'.evaluate inputs = .error err) ↔ ∃ err, g.evaluate inputs = .error err) ∧
    ∀ e e', g.evaluate inputs = .ok e → g'.evaluate inputs = .ok e' →
      e'.matched = e.matched ∧ e'.actions.Perm e.actions ∧ e'.steps.Perm e.steps := by
  have h : Reordered g g' := ⟨hdistinct, hnodes.symm, hedges.symm⟩
  refine ⟨h.fails_iff, fun e e' he he' => ?_⟩
  obtain ⟨e'', he'', hsame⟩ := h.evaluate he
  cases he'.symm.trans he''
  exact hsame

def turnedAlarm : Graph := ⟨loopedAlarm.nodes.reverse, loopedAlarm.edges.reverse⟩

def turnedEvaluation : Evaluation := .ofSteps
  [⟨"stove", .condition true, "stove === 2", 0⟩, ⟨"either", .operator true, "OR", 1⟩,
    ⟨"alarm", .action, "Ring", 2⟩, ⟨"alarm", .action, "Ring", 2⟩,
    ⟨"still", .condition true, "stove > 1", 2⟩, skip "either" 3,
    ⟨"door", .condition true, "door === 1", 0⟩, ⟨"either", .operator true, "OR", 1⟩,
    ⟨"alarm", .action, "Ring", 2⟩, ⟨"alarm", .action, "Ring", 2⟩,
    ⟨"still", .condition true, "stove > 1", 2⟩, skip "either" 3]

theorem turnedAlarm_turns : (loopedAlarm.nodes.map (·.id)).Nodup ∧
    turnedAlarm.nodes.Perm loopedAlarm.nodes ∧ turnedAlarm.edges.Perm loopedAlarm.edges ∧
    loopedAlarm.evaluate loopedInputs = .ok loopedEvaluation ∧
    turnedAlarm.evaluate loopedInputs = .ok turnedEvaluation ∧
    turnedEvaluation.steps ≠ loopedEvaluation.steps ∧
    turnedEvaluation.matched = loopedEvaluation.matched ∧
    turnedEvaluation.actions.Perm loopedEvaluation.actions ∧
    turnedEvaluation.steps.Perm loopedEvaluation.steps := by
  have hdistinct : (loopedAlarm.nodes.map (·.id)).Nodup := by decide
  have hnodes : turnedAlarm.nodes.Perm loopedAlarm.nodes := List.reverse_perm _
  have hedges : turnedAlarm.edges.Perm loopedAlarm.edges := List.reverse_perm _
  have hturned : turnedAlarm.evaluate loopedInputs = .ok turnedEvaluation := by decide +kernel
  have hsame := (evaluate_reordered loopedInputs hdistinct hnodes hedges).2 _ _
    loopedAlarm_evaluate hturned
  exact ⟨hdistinct, hnodes, hedges, loopedAlarm_evaluate, hturned, by decide, hsame⟩

end Graph

end BlockRules
