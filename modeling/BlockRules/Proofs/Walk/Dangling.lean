import BlockRules.Proofs.Walk.Alike
import BlockRules.Proofs.Walk.Firing
import BlockRules.Proofs.Walk.Visit

set_option autoImplicit false

/-!
# Dangling edges

Walks pass over edges to unknown targets. An edge from an unknown source leads into its target all the same:
the target is no root, and the source counts as an operand that does not hold. So such an edge can be deleted
only where another edge leads into the target, and, for an operator that needs all of its operands, another
operand does not hold.
-/
namespace BlockRules.Graph
open Gathering

/-- The rule with only the edges that are kept. -/
def keepEdges (g : Graph) (keep : Edge → Bool) : Graph := { g with edges := g.edges.filter keep }

def isKnown (g : Graph) (e : Edge) : Bool := g.hasNode e.source && g.hasNode e.target

def needsAll (g : Graph) (id : String) : Bool :=
  match g.block? id with
  | some (.operator o) => o.resolvedType == "AND"
  | _ => false

def IsIdle (g : Graph) (inputs : Inputs) (keep : Edge → Bool) (e : Edge) : Prop :=
  g.hasNode e.target = false ∨ g.hasNode e.source = false ∧
    ∃ other ∈ g.edges, keep other = true ∧ other.target = e.target ∧
      (g.needsAll e.target = true → g.operandHolds inputs other.source ≠ .ok true)

instance (g : Graph) (inputs : Inputs) (keep : Edge → Bool) (e : Edge) :
    Decidable (g.IsIdle inputs keep e) := inferInstanceAs (Decidable (_ ∨ _))

variable {g : Graph} {inputs : Inputs} {keep : Edge → Bool}

theorem mem_incoming {id : String} {e : Edge} : e ∈ g.incoming id ↔ e ∈ g.edges ∧ e.target = id := by
  simp [incoming]

theorem IsIdle.into_node {id : String} {e : Edge} (h : g.IsIdle inputs keep e)
    (he : e ∈ g.incoming id) (hid : g.hasNode id = true) :
    g.hasNode e.source = false ∧ ∃ other ∈ g.incoming id, keep other = true ∧
      (g.needsAll id = true → g.operandHolds inputs other.source ≠ .ok true) := by
  obtain ⟨-, rfl⟩ := mem_incoming.1 he
  obtain hunknown | ⟨hsource, other, hother, hkept, htarget, hfails⟩ := h
  · rw [hid] at hunknown
    cases hunknown
  · exact ⟨hsource, other, mem_incoming.2 ⟨hother, htarget⟩, hkept, hfails⟩

theorem keepEdges_outgoing (g : Graph) (keep : Edge → Bool) (id : String) :
    (g.keepEdges keep).outgoing id = (g.outgoing id).filter keep := List.filter_comm ..

theorem keepEdges_incoming (g : Graph) (keep : Edge → Bool) (id : String) :
    (g.keepEdges keep).incoming id = (g.incoming id).filter keep := List.filter_comm ..

theorem operandHolds_of_unknown {id : String} (h : g.hasNode id = false) :
    g.operandHolds inputs id = .ok false := by
  rw [operandHolds, block?_of_unknown (node?_eq_none_of_hasNode h)]

theorem operandsSatisfy_filter {type : String} (h : type ≠ "AND") (operands : List Bool) :
    operandsSatisfy type (operands.filter id) = operandsSatisfy type operands := by
  have hmem : true ∈ operands.filter id ↔ true ∈ operands := by simp
  have hcount : (operands.filter id).count true = operands.count true := List.count_filter rfl
  simp only [operandsSatisfy, hmem, hcount, if_neg h]

theorem operandsSatisfy_and_of_mem {operands : List Bool} (h : false ∈ operands) :
    operandsSatisfy "AND" operands = false := by
  simp [operandsSatisfy, h]

section
variable (h : ∀ e ∈ g.edges, keep e = false → g.IsIdle inputs keep e)
include h

theorem keepEdges_roots : (g.keepEdges keep).roots = g.roots := by
  refine List.filter_congr fun n hn => congrArg (! ·) ?_
  have hnode : g.hasNode n.id = true := List.any_eq_true.2 ⟨n, hn, beq_self_eq_true _⟩
  rw [keepEdges, Bool.eq_iff_iff]
  simp only [List.any_eq_true, List.mem_filter, beq_iff_eq]
  constructor
  · rintro ⟨e, ⟨he, -⟩, htarget⟩
    exact ⟨e, he, htarget⟩
  · rintro ⟨e, he, htarget⟩
    cases hkeep : keep e with
    | true => exact ⟨e, ⟨he, hkeep⟩, htarget⟩
    | false =>
      have hinto := (h e he hkeep).into_node (mem_incoming.2 ⟨he, htarget⟩) hnode
      obtain ⟨-, other, hother, hkept, -⟩ := hinto
      obtain ⟨hother, htarget⟩ := mem_incoming.1 hother
      exact ⟨other, ⟨hother, hkept⟩, htarget⟩

theorem keepEdges_knownTargets {id : String} (hid : g.hasNode id = true) :
    (g.keepEdges keep).knownTargets id = g.knownTargets id := by
  have hnodes : (g.keepEdges keep).hasNode = g.hasNode := rfl
  rw [knownTargets, knownTargets, targets, targets, hnodes, List.filter_map, List.filter_map]
  rw [keepEdges_outgoing, List.filter_filter]
  congr 1
  refine List.filter_congr fun e he => ?_
  obtain ⟨he, hsource⟩ := List.mem_filter.1 he
  cases hkeep : keep e with
  | true => rw [Bool.and_true]
  | false =>
    -- The edge leaves a node, so that it can only be idle because it leads to nothing.
    obtain hunknown | ⟨hunknown, -⟩ := h e he hkeep
    · rw [Bool.and_false, Function.comp_apply, hunknown]
    · rw [eq_of_beq hsource, hid] at hunknown
      cases hunknown

theorem keepEdges_operandResults {id : String} (hid : g.hasNode id = true) :
    ((g.keepEdges keep).operandResults inputs id).map (List.filter (·)) =
      (g.operandResults inputs id).map (List.filter (·)) := by
  rw [operandResults, operandResults, keepEdges_incoming]
  refine mapM_filter_map_filter fun e he hkeep => ⟨false, ?_, rfl⟩
  have hidle := h e (mem_incoming.1 he).1 hkeep
  exact operandHolds_of_unknown (hidle.into_node he hid).1

theorem keepEdges_operatorPasses_of_ne {id : String} {o : Operator} (hid : g.hasNode id = true)
    (hand : o.resolvedType ≠ "AND") :
    (g.keepEdges keep).operatorPasses inputs id o = g.operatorPasses inputs id o := by
  have hfilter : ∀ r : Except ComparisonError (List Bool), r.map (operandsSatisfy o.resolvedType) =
      (r.map (List.filter (·))).map (operandsSatisfy o.resolvedType) := by
    intro r
    cases r with
    | error e => rfl
    | ok results => exact congrArg Except.ok (operandsSatisfy_filter hand results).symm
  rw [operatorPasses_eq, operatorPasses_eq, ← operandResults_eq, ← operandResults_eq]
  rw [hfilter, keepEdges_operandResults h hid, ← hfilter]

/-- An `AND` that loses an operand has another one that does not hold. -/
theorem keepEdges_operatorPasses_and {id : String} {o : Operator}
    (ho : g.block? id = some (.operator o)) (hid : g.hasNode id = true)
    (hand : o.resolvedType = "AND") {e : Edge} (he : e ∈ g.incoming id) (hkeep : keep e = false) :
    (g.keepEdges keep).operatorPasses inputs id o = g.operatorPasses inputs id o := by
  have hidle := h e (mem_incoming.1 he).1 hkeep
  obtain ⟨hsource, other, hother, hkept, hfails⟩ := hidle.into_node he hid
  have hall : g.needsAll id = true := by simp [needsAll, ho, hand]
  have hmap := keepEdges_operandResults h hid
  rw [operatorPasses_eq, operatorPasses_eq, ← operandResults_eq, ← operandResults_eq, hand]
  cases hresults' : (g.keepEdges keep).operandResults inputs id with
  | error e =>
    cases hresults : g.operandResults inputs id with
    | error e' =>
      rw [hresults, hresults'] at hmap
      cases hmap
      rfl
    | ok results =>
      rw [hresults, hresults'] at hmap
      cases hmap
  | ok results' =>
    rw [hresults'] at hmap
    obtain ⟨results, hresults, -⟩ := exists_of_map_ok hmap.symm
    have hmem : false ∈ results := by
      rw [operandResults] at hresults
      exact (mem_of_mapM_ok hresults false).2 ⟨e, he, operandHolds_of_unknown hsource⟩
    have hmem' : false ∈ results' := by
      rw [operandResults, keepEdges_incoming] at hresults'
      have hother' := List.mem_filter.2 ⟨hother, hkept⟩
      obtain ⟨passed, hpassed⟩ := exists_mapM_ok_iff.1 ⟨results', hresults'⟩ other hother'
      cases passed with
      | false => exact (mem_of_mapM_ok hresults' false).2 ⟨other, hother', hpassed⟩
      | true => exact absurd hpassed (hfails hall)
    rw [hresults]
    change Except.ok _ = Except.ok _
    rw [operandsSatisfy_and_of_mem hmem, operandsSatisfy_and_of_mem hmem']

theorem keepEdges_operatorPasses {id : String} {o : Operator}
    (ho : g.block? id = some (.operator o)) (hid : g.hasNode id = true) :
    (g.keepEdges keep).operatorPasses inputs id o = g.operatorPasses inputs id o := by
  by_cases hand : o.resolvedType = "AND"
  · by_cases hdrop : ∃ e ∈ g.incoming id, keep e = false
    · obtain ⟨e, he, hkeep⟩ := hdrop
      exact keepEdges_operatorPasses_and h ho hid hand he hkeep
    · have hall : (g.incoming id).filter keep = g.incoming id := by
        refine List.filter_eq_self.2 fun e he => ?_
        rw [← Bool.not_eq_false]
        exact fun hkeep => hdrop ⟨e, he, hkeep⟩
      rw [operatorPasses, operatorPasses, operandResults, operandResults, keepEdges_incoming, hall]
      rfl
  · exact keepEdges_operatorPasses_of_ne h hid hand

end

/-- Edges with an unknown end can be deleted where they are idle: the evaluation stays the same, failures
included. -/
theorem evaluate_keepEdges (g : Graph) (inputs : Inputs) (keep : Edge → Bool)
    (h : ∀ e ∈ g.edges, keep e = false → g.IsIdle inputs keep e) :
    (g.keepEdges keep).evaluate inputs = g.evaluate inputs := by
  have halike : Alike g (g.keepEdges keep) inputs inputs :=
    { node?_eq := fun _ => rfl
      enter_eq := by
        intro id n hn depth
        have hblock := block?_of_node? hn
        cases hb : n.block with
        | action a => rfl
        | condition c => rfl
        | operator o =>
          rw [enter, enter, keepEdges_operatorPasses h (hb ▸ hblock) (hasNode_of_node? hn)]
      knownTargets_eq := fun _ _ hn => keepEdges_knownTargets h (hasNode_of_node? hn)
      roots_eq := by rw [keepEdges_roots h] }
  exact halike.evaluate_eq

/-- An alarm behind an operator that needs all, both of which are also led to from a node that is gone. -/
def strayAlarm : Graph where
  nodes :=
    [⟨"door", default, .condition ⟨some "door", none, some "===", .int 1, none⟩⟩,
      ⟨"stove", default, .condition ⟨some "stove", none, some "===", .int 2, none⟩⟩,
      ⟨"both", default, .operator ⟨some "and", none, none⟩⟩,
      ⟨"alarm", default, .action ring⟩]
  edges :=
    [⟨"", "door", "both"⟩, ⟨"", "gone", "both"⟩, ⟨"", "stove", "both"⟩, ⟨"", "both", "alarm"⟩,
      ⟨"", "gone", "alarm"⟩, ⟨"", "door", "gone"⟩]

def openDoor : Inputs := [("door", .int 1)]

theorem strayAlarm_openDoor :
    (∀ e ∈ strayAlarm.edges, strayAlarm.isKnown e = false →
      strayAlarm.IsIdle openDoor strayAlarm.isKnown e) ∧
    (strayAlarm.keepEdges strayAlarm.isKnown).evaluate openDoor = strayAlarm.evaluate openDoor ∧
    strayAlarm.evaluate openDoor = .ok (.ofSteps
      [⟨"door", .condition true, "door === 1", 0⟩, ⟨"both", .operator false, "AND", 1⟩,
        ⟨"stove", .condition false, "stove === 2", 0⟩]) := by
  have hidle : ∀ e ∈ strayAlarm.edges, strayAlarm.isKnown e = false →
      strayAlarm.IsIdle openDoor strayAlarm.isKnown e := by decide +kernel
  exact ⟨hidle, evaluate_keepEdges _ _ _ hidle, by decide +kernel⟩

def lostAlarm : Graph := ⟨[⟨"alarm", default, .action ring⟩], [⟨"", "gone", "alarm"⟩]⟩

/-- Edges from an unknown source that are not idle: without them an action becomes a root, and an operator
passes. -/
theorem unknown_sources_count :
    (lostAlarm.evaluate [] = .ok .empty ∧
      (lostAlarm.keepEdges lostAlarm.isKnown).evaluate [] =
        .ok (.ofSteps [⟨"alarm", .action, "Ring", 0⟩])) ∧
    (strayAlarm.evaluate loopedInputs).map (·.actions) = .ok [] ∧
      ((strayAlarm.keepEdges strayAlarm.isKnown).evaluate loopedInputs).map (·.actions) =
        .ok ["Ring", "Ring"] := by
  decide +kernel

end BlockRules.Graph
