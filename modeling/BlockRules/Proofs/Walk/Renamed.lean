import BlockRules.Proofs.Rule.Renamed
import BlockRules.Proofs.Walk.Firing

set_option autoImplicit false

namespace BlockRules

def Step.renamed (rename : String → String) (s : Step) : Step :=
  { s with
    node := rename s.node
    description := if s.visit = .cycle then rename s.description else s.description }

/-- The evaluation with other identifiers in its steps. What it matched and which actions it fired are as they were. -/
def Evaluation.renamed (rename : String → String) (e : Evaluation) : Evaluation :=
  { e with steps := e.steps.map (Step.renamed rename) }

theorem Evaluation.ofSteps_renamed (rename : String → String) (steps : List Step) :
    ofSteps (steps.map (Step.renamed rename)) = (ofSteps steps).renamed rename := by
  have hactions : ((steps.map (Step.renamed rename)).filter Step.isAction).map (·.description) =
      (steps.filter Step.isAction).map (·.description) := by
    rw [List.filter_map, List.map_map]
    refine List.map_congr_left fun s hs => ?_
    have haction : s.visit = .action := eq_of_beq (List.mem_filter.1 hs).2
    exact if_neg (by rw [haction]; decide)
  rw [ofSteps, ofSteps, hactions]
  rfl

namespace Graph
open Gathering

namespace KeepsApart

variable {g : Graph} {rename : String → String} {id : String} (label : String → String) (inputs : Inputs)

theorem operandResults_eq (h : g.KeepsApart rename) (hid : id ∈ g.mentioned) :
    (g.renamed rename label).operandResults inputs (rename id) = g.operandResults inputs id := by
  rw [operandResults, operandResults, h.incoming_eq label hid, List.mapM_map]
  refine mapM_congr fun e he => ?_
  have hsource := source_mem_mentioned (List.mem_filter.1 he).1
  rw [Function.comp_apply, operandHolds, operandHolds, block?, block?]
  rw [Edge.renamed, h.node?_eq label hsource, Option.map_map]
  rfl

theorem enter_eq (h : g.KeepsApart rename) (hid : id ∈ g.mentioned) (n : Node) (path : List String) :
    (g.renamed rename label).enter inputs (rename id) (n.renamed rename).block (path.map rename).length =
      (g.enter inputs id n.block path.length).map (Step.renamed rename) := by
  rw [List.length_map, Node.renamed]
  cases n.block with
  | action a => rfl
  | condition c =>
    rw [enter, enter]
    cases c.test inputs <;> rfl
  | operator o =>
    rw [enter, enter, operatorPasses, operatorPasses, h.operandResults_eq label inputs hid]
    cases g.operandResults inputs id <;> rfl

/-- The branch of a block is the same under the new names, those of the path that led to it included. -/
theorem branch_eq (h : g.KeepsApart rename) (path : List String) (hid : id ∈ g.mentioned)
    (hpath : ∀ a ∈ path, a ∈ g.mentioned) :
    (g.renamed rename label).branch inputs (path.map rename) (rename id) =
      (g.branch inputs path id).map (List.map (Step.renamed rename)) := by
  have hnode : ∀ id ∈ g.mentioned, ∀ n, g.node? id = some n →
      (g.renamed rename label).node? (rename id) = some (n.renamed rename) := fun id hid n hn => by
    rw [h.node?_eq label hid, hn, Option.map_some]
  induction path, id using branch.induct g inputs with
  | case1 path id hn =>
    have hn' : (g.renamed rename label).node? (rename id) = none := by
      rw [h.node?_eq label hid, hn, Option.map_none]
    rw [branch_unknown _ inputs hn', branch_unknown g inputs hn]
    rfl
  | case2 path id n hn honPath =>
    have honPath' := (h.mem_map_iff hpath hid).2 honPath
    rw [branch_repeated _ inputs (hnode id hid n hn) honPath', branch_repeated g inputs hn honPath, List.length_map]
    rfl
  | case3 path id n hn hnew e he =>
    have hnew' := mt (h.mem_map_iff hpath hid).1 hnew
    rw [branch_entered _ inputs (hnode id hid n hn) hnew', branch_entered g inputs hn hnew]
    rw [h.enter_eq label inputs hid, he]
    rfl
  | case4 path id n hn hnew s hs hpass ih =>
    have hnew' := mt (h.mem_map_iff hpath hid).1 hnew
    have hs' := h.enter_eq label inputs hid n path
    rw [hs] at hs'
    have hbelow : ((g.outgoing id).flatMapM fun e =>
        (g.renamed rename label).branch inputs (rename id :: path.map rename) (rename e.target)) =
        ((g.outgoing id).flatMapM fun e => g.branch inputs (id :: path) e.target).map
          (List.map (Step.renamed rename)) := by
      rw [← flatMapM_map_result]
      refine flatMapM_congr fun e he => ih e ?_ (List.forall_mem_cons.2 ⟨hid, hpath⟩)
      exact target_mem_mentioned (List.mem_filter.1 he).1
    rw [branch_passed _ inputs (hnode id hid n hn) hnew' hs' hpass, branch_passed g inputs hn hnew hs hpass]
    rw [h.outgoing_eq label hid, flatMapM_map]
    change ((g.outgoing id).flatMapM fun e =>
      (g.renamed rename label).branch inputs (rename id :: path.map rename) (rename e.target)).map _ = _
    rw [hbelow]
    cases (g.outgoing id).flatMapM fun e => g.branch inputs (id :: path) e.target <;> rfl
  | case5 path id n hn hnew s hs hpass =>
    have hnew' := mt (h.mem_map_iff hpath hid).1 hnew
    have hs' := h.enter_eq label inputs hid n path
    rw [hs] at hs'
    rw [branch_stopped _ inputs (hnode id hid n hn) hnew' hs' hpass, branch_stopped g inputs hn hnew hs hpass]
    rfl

theorem evaluate_eq (h : g.KeepsApart rename) :
    (g.renamed rename label).evaluate inputs = (g.evaluate inputs).map (Evaluation.renamed rename) := by
  have hroots : ((g.renamed rename label).roots.flatMapM fun root =>
      (g.renamed rename label).branch inputs [] root.id) =
      (g.roots.flatMapM fun root => g.branch inputs [] root.id).map (List.map (Step.renamed rename)) := by
    rw [h.roots_eq label, flatMapM_map, ← flatMapM_map_result]
    refine flatMapM_congr fun root hroot => ?_
    exact h.branch_eq label inputs [] (id_mem_mentioned (List.mem_filter.1 hroot).1) nofun
  rw [evaluate_eq_flatMapM, evaluate_eq_flatMapM, hroots]
  cases g.roots.flatMapM fun root => g.branch inputs [] root.id with
  | error e => rfl
  | ok steps => exact congrArg Except.ok (Evaluation.ofSteps_renamed rename steps)

end KeepsApart

/-- A renaming under which the identifiers of a rule stay different, those at ends of edges that lead nowhere included,
renames the steps of its evaluation and what is said of skipped blocks, and nothing else. A failure is the same. The
cycle that is found is the renamed one, and none is found where none was. What becomes of the identifiers of edges makes
no difference. -/
theorem evaluate_renamed (g : Graph) (inputs : Inputs) (rename label : String → String)
    (h : Set.InjOn rename {id | id ∈ g.mentioned}) :
    (g.renamed rename label).evaluate inputs = (g.evaluate inputs).map (Evaluation.renamed rename) ∧
      (g.renamed rename label).findCycle = g.findCycle.map (List.map rename) := by
  have hapart : g.KeepsApart rename := h
  exact ⟨hapart.evaluate_eq label inputs, hapart.findCycle_eq label⟩

def openAlarm : Graph := ⟨loopedAlarm.nodes, loopedAlarm.edges ++ [⟨"", "still", "gone"⟩]⟩

/-- The door and the stove exchange names, an operator gets the empty one, and its own goes to what is no block. -/
def exchangeNames (id : String) : String :=
  if id = "door" then "stove" else if id = "stove" then "door" else if id = "either" then ""
  else if id = "gone" then "either" else id

theorem openAlarm_renamed :
    Set.InjOn exchangeNames {id | id ∈ openAlarm.mentioned} ∧
    (openAlarm.renamed exchangeNames fun _ => "wire").evaluate loopedInputs = .ok (.ofSteps
      [⟨"stove", .condition true, "door === 1", 0⟩, ⟨"", .operator true, "OR", 1⟩,
        ⟨"still", .condition true, "stove > 1", 2⟩, skip "" 3, ⟨"alarm", .action, "Ring", 2⟩,
        ⟨"alarm", .action, "Ring", 2⟩, ⟨"door", .condition true, "stove === 2", 0⟩,
        ⟨"", .operator true, "OR", 1⟩, ⟨"still", .condition true, "stove > 1", 2⟩, skip "" 3,
        ⟨"alarm", .action, "Ring", 2⟩, ⟨"alarm", .action, "Ring", 2⟩]) ∧
    (openAlarm.renamed exchangeNames fun _ => "wire").findCycle = some ["", "still", ""] := by
  have hall : ∀ a ∈ openAlarm.mentioned, ∀ b ∈ openAlarm.mentioned, exchangeNames a = exchangeNames b → a = b := by
    decide
  have hinj : Set.InjOn exchangeNames {id | id ∈ openAlarm.mentioned} := fun a ha b hb => hall a ha b hb
  have hevaluate : openAlarm.evaluate loopedInputs = .ok loopedEvaluation := by decide +kernel
  have hcycle : openAlarm.findCycle = some ["either", "still", "either"] := by cbv
  obtain ⟨hrenamed, hfound⟩ := evaluate_renamed openAlarm loopedInputs exchangeNames (fun _ => "wire") hinj
  rw [hevaluate] at hrenamed
  rw [hcycle] at hfound
  exact ⟨hinj, hrenamed, hfound⟩

end Graph

end BlockRules
