import BlockRules.Proofs.Walk.Alike
import BlockRules.Proofs.Walk.Firing

set_option autoImplicit false

/-!
# Rules side by side

Two rules that have no identifier of a node in common, and no edge that ends at a node of the other, can be
put side by side: the nodes of the one before those of the other, the edges mixed in any way that keeps both
orders. Walks do not lead from the one to the other, so that the evaluation of both is the evaluation of the
first, merged with that of the second. Ends of edges that are no node at all may be shared.
-/
namespace BlockRules

/-- A list is mixed from two others, each in its order. -/
inductive Interleaved {α : Type} : List α → List α → List α → Prop
  | nil : Interleaved [] [] []
  | left {x : α} {xs ys zs : List α} : Interleaved xs ys zs → Interleaved (x :: xs) ys (x :: zs)
  | right {y : α} {xs ys zs : List α} : Interleaved xs ys zs → Interleaved xs (y :: ys) (y :: zs)

namespace Interleaved

variable {α : Type} {xs ys zs : List α}

theorem symm (h : Interleaved xs ys zs) : Interleaved ys xs zs := by
  induction h with
  | nil => exact .nil
  | left _ ih => exact .right ih
  | right _ ih => exact .left ih

theorem filter_eq_left (h : Interleaved xs ys zs) {p : α → Bool} (hright : ∀ y ∈ ys, p y = false) :
    zs.filter p = xs.filter p := by
  induction h with
  | nil => rfl
  | left _ ih => rw [List.filter_cons, List.filter_cons, ih hright]
  | right _ ih =>
    obtain ⟨hy, hys⟩ := List.forall_mem_cons.1 hright
    rw [List.filter_cons, hy, ih hys]
    rfl

end Interleaved

namespace Graph
open Gathering

/-- Two rules without a common node, and without an edge that ends at a node of the other. -/
structure Apart (g g' : Graph) : Prop where
  nodes : ∀ n ∈ g.nodes, g'.hasNode n.id = false
  left : ∀ e ∈ g.edges, g'.hasNode e.source = false ∧ g'.hasNode e.target = false
  right : ∀ e ∈ g'.edges, g.hasNode e.source = false ∧ g.hasNode e.target = false

def beside (g g' : Graph) (edges : List Edge) : Graph := ⟨g.nodes ++ g'.nodes, edges⟩

variable {g g' : Graph} {edges : List Edge}

theorem Apart.symm (h : Apart g g') : Apart g' g where
  nodes := by
    intro n hn
    rw [← Bool.not_eq_true, hasNode, List.any_eq_true]
    rintro ⟨m, hm, hid⟩
    have hfalse := h.nodes m hm
    rw [hasNode, List.any_eq_false] at hfalse
    exact hfalse n hn (beq_iff_eq.2 (eq_of_beq hid).symm)
  left := h.right
  right := h.left

theorem beside_node? (g g' : Graph) (edges : List Edge) (id : String) :
    (g.beside g' edges).node? id = (g.node? id).or (g'.node? id) := List.find?_append

/-- A rule that holds another one, apart from the rest: an identifier that is none of the rest's means the
same, and no other edge ends at a node. -/
structure Holds (both g rest : Graph) : Prop where
  node?_eq : ∀ id, rest.hasNode id = false → both.node? id = g.node? id
  outgoing_eq : ∀ id, g.hasNode id = true → both.outgoing id = g.outgoing id
  incoming_eq : ∀ id, g.hasNode id = true → both.incoming id = g.incoming id
  apart : ∀ e ∈ g.edges, rest.hasNode e.source = false ∧ rest.hasNode e.target = false

variable {both rest : Graph}

theorem Holds.operandResults_eq (h : Holds both g rest) (inputs : Inputs) {id : String}
    (hid : g.hasNode id = true) : both.operandResults inputs id = g.operandResults inputs id := by
  rw [operandResults, operandResults, h.incoming_eq id hid]
  refine mapM_congr fun e he => ?_
  have hsource := (h.apart e (List.mem_filter.1 he).1).1
  rw [operandHolds, operandHolds, block?, block?, h.node?_eq e.source hsource]

theorem Holds.knownTargets_eq (h : Holds both g rest) {id : String} (hid : g.hasNode id = true) :
    both.knownTargets id = g.knownTargets id := by
  rw [knownTargets, knownTargets, targets, targets, h.outgoing_eq id hid]
  refine List.filter_congr fun target htarget => ?_
  obtain ⟨e, he, rfl⟩ := List.mem_map.1 htarget
  have htarget := (h.apart e (List.mem_filter.1 he).1).2
  rw [← isSome_node?, ← isSome_node?, h.node?_eq e.target htarget]

/-- Walks do not leave a rule for what is apart from it. -/
theorem Holds.alikeOn (h : Holds both g rest) (inputs : Inputs) :
    AlikeOn {id | rest.hasNode id = false} g both inputs inputs where
  node?_eq := h.node?_eq
  enter_eq := fun _ _ n hn =>
    enter_eq_of_operandResults (h.operandResults_eq inputs (hasNode_of_node? hn)) n.block
  knownTargets_eq := fun _ _ _ hn => h.knownTargets_eq (hasNode_of_node? hn)
  targets_mem := by
    intro id _ target htarget
    obtain ⟨e, he, rfl⟩ := List.mem_map.1 htarget
    exact (h.apart e (List.mem_filter.1 he).1).2

theorem beside_holds_left (hapart : Apart g g') (hedges : Interleaved g.edges g'.edges edges) :
    Holds (g.beside g' edges) g g' where
  node?_eq := by
    intro id hid
    rw [beside_node?, node?_eq_none_of_hasNode hid, Option.or_none]
  outgoing_eq := by
    intro id hid
    refine hedges.filter_eq_left fun e he => beq_false_of_ne ?_
    rintro rfl
    rw [(hapart.right e he).1] at hid
    cases hid
  incoming_eq := by
    intro id hid
    refine hedges.filter_eq_left fun e he => beq_false_of_ne ?_
    rintro rfl
    rw [(hapart.right e he).2] at hid
    cases hid
  apart := hapart.left

theorem beside_holds_right (hapart : Apart g g') (hedges : Interleaved g.edges g'.edges edges) :
    Holds (g.beside g' edges) g' g where
  node?_eq := by
    intro id hid
    rw [beside_node?, node?_eq_none_of_hasNode hid, Option.none_or]
  outgoing_eq := (beside_holds_left hapart.symm hedges.symm).outgoing_eq
  incoming_eq := (beside_holds_left hapart.symm hedges.symm).incoming_eq
  apart := hapart.right

theorem roots_eq_filter_incoming (g : Graph) :
    g.roots = g.nodes.filter fun n => (g.incoming n.id).isEmpty := by
  refine List.filter_congr fun n _ => ?_
  rw [Bool.eq_iff_iff, incoming, List.isEmpty_iff, List.filter_eq_nil_iff]
  simp

theorem Holds.filter_roots (h : Holds both g rest) :
    g.nodes.filter (fun n => (both.incoming n.id).isEmpty) = g.roots := by
  rw [roots_eq_filter_incoming]
  refine List.filter_congr fun n hn => ?_
  rw [h.incoming_eq n.id (List.any_eq_true.2 ⟨n, hn, beq_self_eq_true _⟩)]

theorem beside_roots (hapart : Apart g g') (hedges : Interleaved g.edges g'.edges edges) :
    (g.beside g' edges).roots = g.roots ++ g'.roots := by
  rw [roots_eq_filter_incoming]
  change (g.nodes ++ g'.nodes).filter _ = _
  rw [List.filter_append, (beside_holds_left hapart hedges).filter_roots]
  rw [(beside_holds_right hapart hedges).filter_roots]

/-- Side by side, two rules that are apart evaluate to what the first and the second evaluate to, merged, and
fail as the first of them that fails. -/
theorem evaluate_beside {g g' : Graph} (hapart : Apart g g') {edges : List Edge}
    (hedges : Interleaved g.edges g'.edges edges) (inputs : Inputs) :
    (g.beside g' edges).evaluate inputs = do
      let e ← g.evaluate inputs
      let e' ← g'.evaluate inputs
      return e.merge e' := by
  have hleft : (g.roots.flatMapM fun root => (g.beside g' edges).branch inputs [] root.id) =
      g.roots.flatMapM fun root => g.branch inputs [] root.id := by
    refine flatMapM_congr fun root hroot => ?_
    have hid := hapart.nodes root (List.mem_filter.1 hroot).1
    exact ((beside_holds_left hapart hedges).alikeOn inputs).branch_eq [] hid
  have hright : (g'.roots.flatMapM fun root => (g.beside g' edges).branch inputs [] root.id) =
      g'.roots.flatMapM fun root => g'.branch inputs [] root.id := by
    refine flatMapM_congr fun root hroot => ?_
    have hid := hapart.symm.nodes root (List.mem_filter.1 hroot).1
    exact ((beside_holds_right hapart hedges).alikeOn inputs).branch_eq [] hid
  rw [evaluate_eq_flatMapM, evaluate_eq_flatMapM, evaluate_eq_flatMapM, beside_roots hapart hedges]
  rw [flatMapM_append, hleft, hright]
  cases g.roots.flatMapM fun root => g.branch inputs [] root.id with
  | error err => rfl
  | ok steps =>
    cases g'.roots.flatMapM fun root => g'.branch inputs [] root.id with
    | error err => rfl
    | ok steps' => exact congrArg Except.ok (Evaluation.ofSteps_append steps steps')

def roomFan : Graph where
  nodes :=
    [⟨"hot", default, .condition ⟨some "stove", none, some ">", .int 1, none⟩⟩,
      ⟨"fan", default, .action ⟨some "turn_on", some "fan", none, none⟩⟩]
  edges := [⟨"", "hot", "gone"⟩, ⟨"", "hot", "fan"⟩]

def mixedEdges : List Edge :=
  [⟨"", "hot", "gone"⟩, ⟨"", "door", "either"⟩, ⟨"", "stove", "either"⟩, ⟨"", "either", "still"⟩,
    ⟨"", "hot", "fan"⟩, ⟨"", "still", "either"⟩, ⟨"", "either", "alarm"⟩, ⟨"", "either", "alarm"⟩]

theorem loopedAlarm_beside_roomFan : Apart loopedAlarm roomFan ∧
    Interleaved loopedAlarm.edges roomFan.edges mixedEdges ∧
    (loopedAlarm.beside roomFan mixedEdges).evaluate loopedInputs = .ok (loopedEvaluation.merge
      (.ofSteps [⟨"hot", .condition true, "stove > 1", 0⟩, ⟨"fan", .action, "turn on: fan", 1⟩])) := by
  have hapart : Apart loopedAlarm roomFan := ⟨by decide, by decide, by decide⟩
  have hedges : Interleaved loopedAlarm.edges roomFan.edges mixedEdges :=
    .right (.left (.left (.left (.right (.left (.left (.left .nil)))))))
  have hfan : roomFan.evaluate loopedInputs = .ok (.ofSteps
      [⟨"hot", .condition true, "stove > 1", 0⟩, ⟨"fan", .action, "turn on: fan", 1⟩]) := by
    decide +kernel
  refine ⟨hapart, hedges, ?_⟩
  rw [evaluate_beside hapart hedges, loopedAlarm_evaluate, hfan]
  rfl

end Graph

end BlockRules
