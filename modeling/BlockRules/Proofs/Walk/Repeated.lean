import BlockRules.Proofs.Walk.Alike
import BlockRules.Proofs.Walk.Firing

set_option autoImplicit false

/-!
# Repeated identifiers

An identifier means its first node, so that no later node of that identifier is ever entered. But roots are
found among all nodes: a later one that no edge leads to is a root of its own, and from each such root the
first node is walked again. Without the later nodes an evaluation fires the same actions and leaves the same
steps, but as often as before only where no root is repeated.
-/
namespace BlockRules.Graph
open Gathering

/-- The nodes whose identifiers are neither among some others nor met before. -/
def unrepeated (met : List String) : List Node → List Node
  | [] => []
  | n :: nodes =>
    if n.id ∈ met then unrepeated met nodes else n :: unrepeated (n.id :: met) nodes

/-- The rule without the nodes whose identifiers already occurred. -/
def withoutRepeats (g : Graph) : Graph := { g with nodes := unrepeated [] g.nodes }

theorem unrepeated_sublist (met : List String) (nodes : List Node) :
    (unrepeated met nodes).Sublist nodes := by
  induction nodes generalizing met with
  | nil => exact .slnil
  | cons n nodes ih =>
    rw [unrepeated]
    split
    · exact (ih met).cons n
    · exact (ih (n.id :: met)).cons_cons n

theorem exists_mem_unrepeated {met : List String} {nodes : List Node} {n : Node} (hn : n ∈ nodes)
    (hmet : n.id ∉ met) : ∃ m ∈ unrepeated met nodes, m.id = n.id := by
  induction nodes generalizing met with
  | nil => cases hn
  | cons first nodes ih =>
    by_cases hsame : first.id = n.id
    · rw [unrepeated, if_neg (hsame ▸ hmet)]
      exact ⟨first, List.mem_cons_self, hsame⟩
    · have hn : n ∈ nodes := (List.mem_cons.1 hn).resolve_left fun heq => hsame (heq ▸ rfl)
      rw [unrepeated]
      split
      · exact ih hn hmet
      · obtain ⟨m, hm, hid⟩ := ih hn (List.not_mem_cons_of_ne_of_not_mem (Ne.symm hsame) hmet)
        exact ⟨m, List.mem_cons_of_mem first hm, hid⟩

theorem unrepeated_congr {met met' : List String} {nodes : List Node}
    (h : ∀ n ∈ nodes, n.id ∈ met ↔ n.id ∈ met') : unrepeated met nodes = unrepeated met' nodes := by
  induction nodes generalizing met met' with
  | nil => rfl
  | cons n nodes ih =>
    obtain ⟨hn, hnodes⟩ := List.forall_mem_cons.1 h
    have hmore : ∀ m ∈ nodes, m.id ∈ n.id :: met ↔ m.id ∈ n.id :: met' := by
      intro m hm
      rw [List.mem_cons, List.mem_cons, hnodes m hm]
    simp only [unrepeated, hn, ih hnodes, ih hmore]

theorem unrepeated_eq_self_iff {met : List String} {nodes : List Node} :
    unrepeated met nodes = nodes ↔ (∀ n ∈ nodes, n.id ∉ met) ∧ (nodes.map (·.id)).Nodup := by
  induction nodes generalizing met with
  | nil => simp [unrepeated]
  | cons n nodes ih =>
    rw [unrepeated, List.forall_mem_cons, List.map_cons, List.nodup_cons]
    split
    · rename_i hmet
      refine iff_of_false (fun heq => ?_) fun h => h.1.1 hmet
      have hlength := (unrepeated_sublist met nodes).length_le
      rw [heq, List.length_cons] at hlength
      omega
    · rename_i hmet
      rw [List.cons.injEq, ih]
      simp only [List.mem_cons, List.mem_map]
      grind

theorem find?_unrepeated {met : List String} {id : String} (hid : id ∉ met) (nodes : List Node) :
    (unrepeated met nodes).find? (fun n => n.id == id) = nodes.find? fun n => n.id == id := by
  induction nodes generalizing met with
  | nil => rfl
  | cons n nodes ih =>
    rw [unrepeated, List.find?_cons]
    by_cases hn : n.id = id
    · rw [if_neg (hn ▸ hid), List.find?_cons, beq_iff_eq.2 hn]
    · rw [beq_false_of_ne hn]
      split
      · exact ih hid
      · rw [List.find?_cons, beq_false_of_ne hn]
        exact ih (List.not_mem_cons_of_ne_of_not_mem (Ne.symm hn) hid)

theorem filter_unrepeated (p : String → Bool) (met : List String) (nodes : List Node) :
    (unrepeated met nodes).filter (fun n => p n.id) = unrepeated met (nodes.filter fun n => p n.id) := by
  induction nodes generalizing met with
  | nil => rfl
  | cons n nodes ih =>
    by_cases hp : p n.id = true
    · rw [List.filter_cons, if_pos hp, unrepeated, unrepeated]
      split
      · exact ih met
      · rw [List.filter_cons, if_pos hp, ih]
    · -- The node is met in one list only, but no node that is picked has its identifier.
      have hother : ∀ m ∈ nodes.filter (fun m => p m.id), m.id ∈ n.id :: met ↔ m.id ∈ met := by
        intro m hm
        have hne : m.id ≠ n.id := fun heq => hp (heq ▸ (List.mem_filter.1 hm).2)
        rw [List.mem_cons, or_iff_right hne]
      rw [List.filter_cons, if_neg hp, unrepeated]
      split
      · exact ih met
      · rw [List.filter_cons, if_neg hp, ih, unrepeated_congr hother]

theorem unrepeated_eq_error_iff {ε β : Type} {f : String → Except ε (List β)} {met : List String}
    (hmet : ∀ id ∈ met, ∃ ys, f id = .ok ys) {nodes : List Node} {e : ε} :
    ((unrepeated met nodes).flatMapM fun n => f n.id) = .error e ↔
      (nodes.flatMapM fun n => f n.id) = .error e := by
  induction nodes generalizing met with
  | nil => rfl
  | cons n nodes ih =>
    rw [unrepeated, flatMapM_cons_eq_error]
    split
    · rename_i hid
      obtain ⟨ys, hys⟩ := hmet n.id hid
      rw [ih hmet, hys]
      simp
    · rw [flatMapM_cons_eq_error]
      refine or_congr_right (and_congr_right fun hn => ih ?_)
      exact List.forall_mem_cons.2 ⟨hn, hmet⟩

variable {g : Graph} {inputs : Inputs}

theorem withoutRepeats_node? (g : Graph) (id : String) : g.withoutRepeats.node? id = g.node? id :=
  find?_unrepeated List.not_mem_nil g.nodes

theorem withoutRepeats_roots (g : Graph) : g.withoutRepeats.roots = unrepeated [] g.roots :=
  filter_unrepeated (fun id => !g.edges.any fun e => e.target == id) [] g.nodes

/-- From every identifier walks take the same course, as all mean the same nodes. -/
theorem withoutRepeats_branch (g : Graph) (inputs : Inputs) :
    g.withoutRepeats.branch inputs [] = g.branch inputs [] := by
  have hoperand : g.withoutRepeats.operandHolds inputs = g.operandHolds inputs := by
    funext id
    rw [operandHolds, operandHolds, block?, block?, withoutRepeats_node?]
  have hknown : g.withoutRepeats.hasNode = g.hasNode := by
    funext id
    rw [← isSome_node?, ← isSome_node?, withoutRepeats_node?]
  have halike : AlikeOn Set.univ g g.withoutRepeats inputs inputs :=
    { node?_eq := fun id _ => withoutRepeats_node? g id
      enter_eq := by
        intro id _ n _ depth
        apply enter_eq_of_operandResults
        rw [operandResults, operandResults, hoperand]
        rfl
      knownTargets_eq := by
        intro id _ n _
        rw [knownTargets, knownTargets, hknown]
        rfl
      targets_mem := fun _ _ _ _ => trivial }
  funext id
  exact halike.branch_eq [] trivial

theorem withoutRepeats_evaluate (g : Graph) (inputs : Inputs) : g.withoutRepeats.evaluate inputs =
    ((unrepeated [] g.roots).flatMapM fun root => g.branch inputs [] root.id).map .ofSteps := by
  rw [evaluate_eq_flatMapM, withoutRepeats_roots, withoutRepeats_branch]

theorem branch_ne_nil {n : Node} (hn : n ∈ g.nodes) : g.branch inputs [] n.id ≠ .ok [] := by
  intro h
  obtain ⟨m, hm⟩ := exists_node?_of_mem hn
  obtain ⟨s, below, -, hsteps, -⟩ := branch_cases g inputs hm List.not_mem_nil h
  cases hsteps

/-- The roots that repeat others add steps, all of which were there before. -/
theorem exists_unrepeated_steps {steps : List Step}
    (h : (g.roots.flatMapM fun root => g.branch inputs [] root.id) = .ok steps) :
    ∃ steps', ((unrepeated [] g.roots).flatMapM fun root => g.branch inputs [] root.id) = .ok steps' ∧
      steps'.Sublist steps ∧ (∀ s, s ∈ steps' ↔ s ∈ steps) ∧
      (steps' = steps ↔ (g.roots.map (·.id)).Nodup) := by
  have hroots := unrepeated_sublist [] g.roots
  obtain ⟨steps', hsteps', hsub, hsame⟩ := exists_flatMapM_of_sublist hroots h
  refine ⟨steps', hsteps', hsub, fun s => ?_, fun heq => ?_, fun hnodup => ?_⟩
  · rw [mem_of_flatMapM_ok hsteps', mem_of_flatMapM_ok h]
    constructor
    · rintro ⟨root, hroot, hfound⟩
      exact ⟨root, hroots.mem hroot, hfound⟩
    · rintro ⟨root, hroot, hfound⟩
      obtain ⟨first, hfirst, hid⟩ := exists_mem_unrepeated hroot List.not_mem_nil
      exact ⟨first, hfirst, hid ▸ hfound⟩
  · have hsome : ∀ root ∈ g.roots, g.branch inputs [] root.id ≠ .ok [] := fun root hroot =>
      branch_ne_nil (List.mem_filter.1 hroot).1
    exact (unrepeated_eq_self_iff.1 (hsame hsome heq)).2
  · rw [unrepeated_eq_self_iff.2 ⟨fun _ _ => List.not_mem_nil, hnodup⟩, h] at hsteps'
    exact (Except.ok.inj hsteps').symm

/-- Without the nodes whose identifiers already occurred, an evaluation fails the same way, and otherwise
fires the same actions and leaves the same steps, some of them less often. It is the same if and only if it
fails or no two roots have one identifier. -/
theorem evaluate_withoutRepeats (g : Graph) (inputs : Inputs) :
    (∀ err, g.withoutRepeats.evaluate inputs = .error err ↔ g.evaluate inputs = .error err) ∧
    (∀ e, g.evaluate inputs = .ok e → ∃ e', g.withoutRepeats.evaluate inputs = .ok e' ∧
      e'.matched = e.matched ∧ e'.steps.Sublist e.steps ∧ ∀ s, s ∈ e'.steps ↔ s ∈ e.steps) ∧
    (g.withoutRepeats.evaluate inputs = g.evaluate inputs ↔
      (∃ err, g.evaluate inputs = .error err) ∨ (g.roots.map (·.id)).Nodup) := by
  rw [withoutRepeats_evaluate, evaluate_eq_flatMapM]
  have herror : ∀ err,
      ((unrepeated [] g.roots).flatMapM fun root => g.branch inputs [] root.id) = .error err ↔
        (g.roots.flatMapM fun root => g.branch inputs [] root.id) = .error err := fun err =>
    unrepeated_eq_error_iff fun _ hid => absurd hid List.not_mem_nil
  cases h : g.roots.flatMapM fun root => g.branch inputs [] root.id with
  | error err =>
    rw [(herror err).2 h]
    exact ⟨fun _ => .rfl, nofun, iff_of_true rfl (.inl ⟨err, rfl⟩)⟩
  | ok steps =>
    obtain ⟨steps', hsteps', hsub, hmem, hsame⟩ := exists_unrepeated_steps h
    have hmatched : (Evaluation.ofSteps steps').matched = (Evaluation.ofSteps steps).matched := by
      rw [Bool.eq_iff_iff, Evaluation.ofSteps_matched_iff, Evaluation.ofSteps_matched_iff]
      simp only [hmem]
    rw [hsteps', ← hsame]
    refine ⟨fun err => iff_of_false nofun nofun, ?_, fun heq => .inr ?_, ?_⟩
    · rintro e ⟨⟩
      exact ⟨.ofSteps steps', rfl, hmatched, hsub, hmem⟩
    · exact congrArg Evaluation.steps (Except.ok.inj heq)
    · rintro (⟨err, herr⟩ | rfl)
      · cases herr
      · rfl

def doubledAlarm : Graph where
  nodes :=
    [⟨"watch", default, .condition ⟨some "door", none, some "===", .int 1, none⟩⟩,
      ⟨"watch", default, .condition ⟨some "stove", none, some "===", .int 2, none⟩⟩,
      ⟨"alarm", default, .action ring⟩]
  edges := [⟨"", "watch", "alarm"⟩]

/-- The second condition does not hold, is not looked at, and makes the action fire again. -/
theorem doubledAlarm_fires_twice :
    doubledAlarm.evaluate [("door", .int 1)] = .ok (.ofSteps
      [⟨"watch", .condition true, "door === 1", 0⟩, ⟨"alarm", .action, "Ring", 1⟩,
        ⟨"watch", .condition true, "door === 1", 0⟩, ⟨"alarm", .action, "Ring", 1⟩]) ∧
    doubledAlarm.withoutRepeats.evaluate [("door", .int 1)] = .ok (.ofSteps
      [⟨"watch", .condition true, "door === 1", 0⟩, ⟨"alarm", .action, "Ring", 1⟩]) ∧
    doubledAlarm.withoutRepeats.evaluate [("door", .int 1)] ≠ doubledAlarm.evaluate [("door", .int 1)] := by
  decide +kernel

end BlockRules.Graph
