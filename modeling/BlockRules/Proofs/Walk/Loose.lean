import BlockRules.Proofs.Rule.Warned
import BlockRules.Proofs.Walk.Ancestry
import BlockRules.Proofs.Walk.Repeated

set_option autoImplicit false

/-!
# Warnings that come true

A warning is found by looking at a rule, without inputs. Where its identifier is that of one node only, every
evaluation that does not fail bears it out: an action that no edge touches is a root and fires, a condition that
no edge touches is a root from which nothing is reached, and an operator of a type without a meaning never passes.
-/
namespace BlockRules

theorem combineNamed_eq_none_iff {type : String} :
    (∀ results, combineNamed type results = none) ↔ Connective.ofName? type = none := by
  simp [combineNamed]

theorem Visit.outcome_eq_true_iff {v : Visit} : v.outcome = "✓ TRUE" ↔ v.passes = true := by
  cases v with
  | condition passed | operator passed => cases passed <;> simp [outcome, passes]
  | action | cycle => simp [outcome, passes]

namespace Graph
open Gathering

/-- An identifier is that of one node only. -/
def IsUnique (g : Graph) (id : String) : Prop := (g.nodes.countP fun n => n.id == id) = 1

instance (g : Graph) (id : String) : Decidable (g.IsUnique id) := inferInstanceAs (Decidable (_ = _))

/-- The rule without the nodes of an identifier. -/
def withoutNode (g : Graph) (id : String) : Graph := { g with nodes := g.nodes.filter fun n => n.id != id }

variable {g : Graph} {inputs : Inputs} {id : String}

theorem IsUnique.node?_eq (h : g.IsUnique id) {n : Node} (hn : n ∈ g.nodes) (hid : n.id = id) :
    g.node? id = some n := by
  rw [IsUnique, List.countP_eq_length_filter] at h
  obtain ⟨m, hm⟩ := List.length_eq_one_iff.1 h
  have hmem : n ∈ g.nodes.filter fun n => n.id == id := List.mem_filter.2 ⟨hn, beq_iff_eq.2 hid⟩
  rw [hm, List.mem_singleton] at hmem
  rw [node?, ← List.head?_filter, hm, hmem, List.head?_cons]

theorem IsUnique.condition_iff (h : g.IsUnique id) {c : Condition} :
    (id, c) ∈ g.conditions ↔ g.block? id = some (.condition c) := by
  refine ⟨fun hmem => ?_, mem_conditions_of_block?⟩
  obtain ⟨n, hn, hlisted⟩ := List.mem_filterMap.1 hmem
  split at hlisted <;> cases hlisted
  rw [block?_of_node? (h.node?_eq hn rfl), ‹n.block = _›]

theorem IsUnique.operator_iff (h : g.IsUnique id) {o : Operator} :
    (id, o) ∈ g.operators ↔ g.block? id = some (.operator o) := by
  refine ⟨fun hmem => ?_, mem_operators_of_block?⟩
  obtain ⟨n, hn, hlisted⟩ := List.mem_filterMap.1 hmem
  split at hlisted <;> cases hlisted
  rw [block?_of_node? (h.node?_eq hn rfl), ‹n.block = _›]

theorem IsUnique.action_iff (h : g.IsUnique id) {a : Action} :
    (id, a) ∈ g.actions ↔ g.block? id = some (.action a) := by
  refine ⟨fun hmem => ?_, mem_actions_of_block?⟩
  obtain ⟨n, hn, hlisted⟩ := List.mem_filterMap.1 hmem
  split at hlisted <;> cases hlisted
  rw [block?_of_node? (h.node?_eq hn rfl), ‹n.block = _›]

theorem not_touched (h : g.isConnected id = false) {e : Edge} (he : e ∈ g.edges) :
    e.source ≠ id ∧ e.target ≠ id := by
  rw [isConnected, List.any_eq_false] at h
  simpa using h e he

theorem mem_roots_of_loose {n : Node} (hn : n ∈ g.nodes) (h : g.isConnected n.id = false) : n ∈ g.roots := by
  refine List.mem_filter.2 ⟨hn, ?_⟩
  rw [Bool.not_eq_true', List.any_eq_false]
  exact fun e he => mt eq_of_beq (not_touched h he).2

theorem outgoing_of_loose (h : g.isConnected id = false) : g.outgoing id = [] :=
  List.filter_eq_nil_iff.2 fun _ he => mt eq_of_beq (not_touched h he).1

theorem branch_of_loose (h : g.isConnected id = false) {n : Node} (hn : g.node? id = some n)
    {steps : List Step} (hsteps : g.branch inputs [] id = .ok steps) :
    ∃ s, g.enter inputs id n.block 0 = .ok s ∧ steps = [s] := by
  obtain ⟨s, below, hs, rfl, ⟨-, hbelow⟩ | ⟨-, rfl⟩⟩ := branch_cases g inputs hn List.not_mem_nil hsteps
  · rw [outgoing_of_loose h] at hbelow
    cases hbelow
    exact ⟨s, hs, rfl⟩
  · exact ⟨s, hs, rfl⟩

theorem looseAction_fires (hloose : g.isConnected id = false) {a : Action}
    (ha : g.block? id = some (.action a)) {e : Evaluation} (h : g.evaluate inputs = .ok e) :
    e.matched = true ∧ ⟨id, .action, a.description, 0⟩ ∈ e.steps := by
  rw [evaluate_eq_flatMapM] at h
  obtain ⟨steps, hsteps, rfl⟩ := exists_of_map_ok h
  obtain ⟨n, hn, hblock⟩ := Option.map_eq_some_iff.1 ha
  have hroot : n ∈ g.roots := mem_roots_of_loose (node?_mem hn) ((node?_id hn).symm ▸ hloose)
  obtain ⟨ys, hys⟩ := exists_flatMapM_ok_iff.1 ⟨steps, hsteps⟩ n hroot
  have hys' := hys
  rw [node?_id hn] at hys'
  obtain ⟨s, hs, rfl⟩ := branch_of_loose hloose hn hys'
  rw [hblock] at hs
  cases hs
  have hmem := (mem_of_flatMapM_ok hsteps _).2 ⟨n, hroot, _, hys, List.mem_singleton_self _⟩
  exact ⟨(Evaluation.ofSteps_matched_iff steps).2 ⟨_, hmem, rfl⟩, hmem⟩

theorem withoutNode_node? {x : String} (hx : x ≠ id) : (g.withoutNode id).node? x = g.node? x := by
  rw [node?, node?, withoutNode, List.find?_filter]
  congr 1
  funext n
  by_cases hn : n.id = x <;> simp [hn, hx]

theorem withoutNode_alikeOn (hloose : g.isConnected id = false) (inputs : Inputs) :
    AlikeOn {x | x ≠ id} g (g.withoutNode id) inputs inputs where
  node?_eq := fun x hx => withoutNode_node? hx
  enter_eq := by
    intro x _ n _
    refine enter_eq_of_operandResults ?_ n.block
    refine mapM_congr fun e he => ?_
    have hsource := (not_touched hloose (List.mem_filter.1 he).1).1
    rw [operandHolds, operandHolds, block?, block?, withoutNode_node? hsource]
  knownTargets_eq := by
    intro x _ n _
    refine List.filter_congr fun target htarget => ?_
    obtain ⟨e, he, rfl⟩ := List.mem_map.1 htarget
    have htarget := (not_touched hloose (List.mem_filter.1 he).1).2
    rw [← isSome_node?, ← isSome_node?, withoutNode_node? htarget]
  targets_mem := by
    intro x _ target htarget
    obtain ⟨e, he, rfl⟩ := List.mem_map.1 htarget
    exact (not_touched hloose (List.mem_filter.1 he).1).2

/-- Without a condition that no edge touches, an evaluation fires the same actions. -/
theorem evaluate_withoutNode (hloose : g.isConnected id = false) {c : Condition}
    (hc : g.block? id = some (.condition c)) {e : Evaluation} (h : g.evaluate inputs = .ok e) :
    ∃ e', (g.withoutNode id).evaluate inputs = .ok e' ∧ e'.matched = e.matched ∧ e'.actions = e.actions := by
  rw [evaluate_eq_flatMapM] at h
  obtain ⟨steps, hsteps, rfl⟩ := exists_of_map_ok h
  obtain ⟨n, hn, hblock⟩ := Option.map_eq_some_iff.1 hc
  have hdropped : ∀ root ∈ g.roots, (root.id != id) = false → ∀ ys, g.branch inputs [] root.id = .ok ys →
      ys.filter Step.isAction = [] := by
    intro root _ hid ys hys
    rw [bne_eq_false_iff_eq.1 hid] at hys
    obtain ⟨s, hs, rfl⟩ := branch_of_loose hloose hn hys
    rw [hblock] at hs
    exact List.filter_cons_of_neg (not_isAction_of_enter hs nofun)
  obtain ⟨steps', hsteps', hactions⟩ := exists_flatMapM_filter hsteps hdropped
  have hroots : (g.withoutNode id).roots = g.roots.filter fun n => n.id != id := List.filter_comm ..
  have hbranch : ∀ root ∈ g.roots.filter fun n => n.id != id,
      (g.withoutNode id).branch inputs [] root.id = g.branch inputs [] root.id := by
    intro root hroot
    exact (withoutNode_alikeOn hloose inputs).branch_eq [] (bne_iff_ne.1 (List.mem_filter.1 hroot).2)
  refine ⟨.ofSteps steps', ?_, ?_, ?_⟩
  · rw [evaluate_eq_flatMapM, hroots, flatMapM_congr hbranch, hsteps']
    rfl
  · simp only [Evaluation.ofSteps, hactions]
  · simp only [Evaluation.ofSteps, hactions]

theorem enter_of_branch {path : List String} {steps : List Step} (h : g.branch inputs path id = .ok steps) :
    ∀ s ∈ steps, s.visit = .cycle ∨
      ∃ n, g.node? s.node = some n ∧ g.enter inputs s.node n.block s.depth = .ok s := by
  induction path, id, steps, h using branch_induct with
  | unknown => exact nofun
  | repeated => exact List.forall_mem_singleton.2 (.inl rfl)
  | stopped path id n s hn hid hs =>
    obtain ⟨rfl, hdepth, -⟩ := enter_step hs
    exact List.forall_mem_singleton.2 (.inr ⟨n, hn, hdepth ▸ hs⟩)
  | passed path id n s below hn hid hs hpass hbelow ih =>
    obtain ⟨rfl, hdepth, -⟩ := enter_step hs
    refine List.forall_mem_cons.2 ⟨.inr ⟨n, hn, hdepth ▸ hs⟩, fun s' hs' => ?_⟩
    obtain ⟨e, he, ys, hys, hmem⟩ := (mem_of_flatMapM_ok hbelow s').1 hs'
    exact ih e he ys hys s' hmem

theorem enter_of_evaluate {e : Evaluation} (h : g.evaluate inputs = .ok e) {s : Step} (hs : s ∈ e.steps) :
    s.visit = .cycle ∨ ∃ n, g.node? s.node = some n ∧ g.enter inputs s.node n.block s.depth = .ok s := by
  rw [evaluate_eq_flatMapM] at h
  obtain ⟨steps, hsteps, rfl⟩ := exists_of_map_ok h
  obtain ⟨root, -, ys, hys, hmem⟩ := (mem_of_flatMapM_ok hsteps s).1 hs
  exact enter_of_branch hys s hmem

theorem operator_step {o : Operator} (ho : g.block? id = some (.operator o)) {e : Evaluation}
    (h : g.evaluate inputs = .ok e) {s : Step} (hs : s ∈ e.steps) (hid : s.node = id) (hcycle : s.visit ≠ .cycle) :
    s.description = o.resolvedType ∧ ∃ results, g.operandResults inputs id = .ok results ∧
      s.visit = .operator ((combineNamed o.resolvedType results).getD false) := by
  obtain hskip | ⟨n, hn, henter⟩ := enter_of_evaluate h hs
  · exact absurd hskip hcycle
  have hblock : n.block = .operator o := Option.some.inj ((block?_of_node? (hid ▸ hn)).symm.trans ho)
  rw [hblock, enter, operatorPasses, hid] at henter
  obtain ⟨passed, hpassed, hstep⟩ := exists_of_map_ok henter
  obtain ⟨results, hresults, hvalue⟩ := exists_of_bind_ok hpassed
  rw [← hstep]
  exact ⟨rfl, results, hresults, congrArg Visit.operator (Except.ok.inj hvalue).symm⟩

theorem not_passed_of_unsupported {o : Operator} (ho : g.block? id = some (.operator o))
    (htype : ∀ results, combineNamed o.resolvedType results = none) {e : Evaluation}
    (h : g.evaluate inputs = .ok e) {s : Step} (hs : s ∈ e.steps) (hid : s.node = id) :
    s.visit.passes = false := by
  by_cases hcycle : s.visit = .cycle
  · rw [hcycle]
    rfl
  · obtain ⟨-, results, -, hvisit⟩ := operator_step ho h hs hid hcycle
    rw [hvisit, htype]
    rfl

/-- Where an identifier is that of one node only, warnings of it come true in every evaluation that does not fail:
a loose action fires at the top, the rule without a loose condition has the same outcome, and an operator of an
unsupported type is never true. The operators of which that is said are those of a type that no operands satisfy
or fail to satisfy. -/
theorem warnings_come_true (g : Graph) {id : String} (honly : g.IsUnique id) :
    (∀ inputs e, g.evaluate inputs = .ok e →
      (.looseAction id ∈ g.warnings → e.matched = true ∧
        ∃ s ∈ e.steps, s.node = id ∧ s.visit = .action ∧ s.depth = 0) ∧
      (.looseCondition id ∈ g.warnings → ∃ e', (g.withoutNode id).evaluate inputs = .ok e' ∧
        e'.matched = e.matched ∧ e'.actions = e.actions) ∧
      ∀ type, .unsupportedType id type ∈ g.warnings →
        ∀ s ∈ e.steps, s.node = id → s.visit.outcome ≠ "✓ TRUE") ∧
    ∀ type, .unsupportedType id type ∈ g.warnings ↔ ∃ o, g.block? id = some (.operator o) ∧
      o.resolvedType = type ∧ ∀ results, combineNamed type results = none := by
  have hunsupported : ∀ type, .unsupportedType id type ∈ g.warnings ↔
      ∃ o, g.block? id = some (.operator o) ∧ o.resolvedType = type ∧
        ∀ results, combineNamed type results = none := by
    intro type
    simp only [mem_warnings, Warning.IsTrueOf, honly.operator_iff, combineNamed_eq_none_iff]
    refine exists_congr fun o => and_congr_right fun _ => ?_
    rw [and_comm]
    exact and_congr_right fun htype => by rw [htype]
  refine ⟨fun inputs e h => ⟨fun hwarned => ?_, fun hwarned => ?_, fun type hwarned s hs hid => ?_⟩, hunsupported⟩
  · obtain ⟨⟨a, ha⟩, hloose, -⟩ := mem_warnings.1 hwarned
    obtain ⟨hmatched, hstep⟩ := looseAction_fires hloose (honly.action_iff.1 ha) h
    exact ⟨hmatched, _, hstep, rfl, rfl, rfl⟩
  · obtain ⟨⟨c, hc⟩, hloose, -⟩ := mem_warnings.1 hwarned
    exact evaluate_withoutNode hloose (honly.condition_iff.1 hc) h
  · obtain ⟨o, ho, rfl, htype⟩ := (hunsupported type).1 hwarned
    rw [Ne, Visit.outcome_eq_true_iff, not_passed_of_unsupported ho htype h hs hid]
    exact Bool.false_ne_true

def shed : Graph where
  nodes :=
    [⟨"door", default, .condition ⟨some "door", none, some "===", .int 1, none⟩⟩,
      ⟨"maybe", default, .operator ⟨some "nand", none, none⟩⟩,
      ⟨"alarm", default, .action ring⟩,
      ⟨"spare", default, .condition ⟨some "door", none, some "===", .int 1, none⟩⟩,
      ⟨"bell", default, .action ⟨none, none, none, some "Chime"⟩⟩]
  edges := [⟨"", "door", "maybe"⟩, ⟨"", "maybe", "alarm"⟩]

def shedEvaluation : Evaluation := .ofSteps
  [⟨"door", .condition true, "door === 1", 0⟩, ⟨"maybe", .operator false, "NAND", 1⟩,
    ⟨"spare", .condition true, "door === 1", 0⟩, ⟨"bell", .action, "Chime", 0⟩]

theorem shed_warnings : shed.evaluate [("door", .int 1)] = .ok shedEvaluation ∧
    (shed.IsUnique "bell" ∧ .looseAction "bell" ∈ shed.warnings ∧ shedEvaluation.matched = true) ∧
    (shed.IsUnique "spare" ∧ .looseCondition "spare" ∈ shed.warnings ∧
      ∃ e', (shed.withoutNode "spare").evaluate [("door", .int 1)] = .ok e' ∧ e'.actions = ["Chime"]) ∧
    shed.IsUnique "maybe" ∧ .unsupportedType "maybe" "NAND" ∈ shed.warnings ∧
      ∀ s ∈ shedEvaluation.steps, s.node = "maybe" → s.visit.outcome ≠ "✓ TRUE" := by
  have h : shed.evaluate [("door", .int 1)] = .ok shedEvaluation := by decide +kernel
  have hbell : shed.IsUnique "bell" := by decide
  have hspare : shed.IsUnique "spare" := by decide
  have hmaybe : shed.IsUnique "maybe" := by decide
  have hbellWarned : .looseAction "bell" ∈ shed.warnings :=
    mem_warnings.2 ⟨⟨_, mem_actions_of_block? rfl⟩, by decide, nofun⟩
  have hspareWarned : .looseCondition "spare" ∈ shed.warnings :=
    mem_warnings.2 ⟨⟨_, mem_conditions_of_block? rfl⟩, by decide, by decide⟩
  have hmaybeWarned : .unsupportedType "maybe" "NAND" ∈ shed.warnings :=
    mem_warnings.2 ⟨_, mem_operators_of_block? rfl, by decide +kernel, by decide +kernel⟩
  obtain ⟨hmatched, -⟩ := ((warnings_come_true shed hbell).1 _ _ h).1 hbellWarned
  obtain ⟨e', he', -, hactions⟩ := ((warnings_come_true shed hspare).1 _ _ h).2.1 hspareWarned
  have hnever := ((warnings_come_true shed hmaybe).1 _ _ h).2.2 "NAND" hmaybeWarned
  exact ⟨h, ⟨hbell, hbellWarned, hmatched⟩, ⟨hspare, hspareWarned, e', he', hactions⟩, hmaybe, hmaybeWarned, hnever⟩

end Graph

end BlockRules
