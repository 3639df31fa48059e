import BlockRules.Proofs.Walk.Ancestry
import BlockRules.Rule.Cycle

set_option autoImplicit false

/-!
# The loop of a walk

What is on the path to a frame is different conditions and operators, as many as the frame is deep. So no walk goes
deeper than there are such blocks. What the frames on the stack may still lead to becomes less in every turn, and the
loop ends.
-/
namespace BlockRules.Graph

variable (g : Graph) (inputs : Inputs)

/-- Some turns, by their number, from a state to another. -/
inductive Runs : WalkState → Nat → WalkState → Prop where
  | refl (s : WalkState) : Runs s 0 s
  | next {s t u : WalkState} {n : Nat} (h : g.turn inputs s = .next t) (rest : Runs t n u) : Runs s (n + 1) u

/-- The identifiers that mean a condition or an operator, each once. -/
def gates : List String := g.ids.filter fun id => (g.block? id).any fun b => !b.isAction

variable {g : Graph} {inputs : Inputs}

theorem nodup_gates (g : Graph) : g.gates.Nodup := g.nodup_ids.filter _

theorem mem_gates_iff {id : String} : id ∈ g.gates ↔
    (∃ c, g.block? id = some (.condition c)) ∨ ∃ o, g.block? id = some (.operator o) := by
  rw [gates, List.mem_filter, mem_ids_iff_hasNode, ← isSome_node?, block?]
  cases g.node? id with
  | none => simp
  | some n => cases hblock : n.block <;> simp [hblock, Block.isAction]

theorem mem_gates_of_tests {id : String} {n : Node} (hn : g.node? id = some n) (htests : ¬n.block.isAction = true) :
    id ∈ g.gates := by
  rw [mem_gates_iff, block?_of_node? hn]
  cases hblock : n.block with
  | condition c => exact .inl ⟨c, rfl⟩
  | operator o => exact .inr ⟨o, rfl⟩
  | action a =>
    rw [hblock] at htests
    exact absurd rfl htests

/-- On the path to a frame are different conditions and operators, as many as the frame is deep. -/
structure HasPath (g : Graph) (f : Frame) : Prop where
  distinct : f.path.Nodup
  gates : ∀ id ∈ f.path, id ∈ g.gates
  length : f.path.length = f.depth

theorem HasPath.depth_le {f : Frame} (h : g.HasPath f) : f.depth ≤ g.gates.length := by
  rw [← h.length]
  exact (h.distinct.subperm h.gates).length_le

theorem HasPath.children {f : Frame} (h : g.HasPath f) (hnew : f.id ∉ f.path) (hgate : f.id ∈ g.gates) :
    ∀ child ∈ g.children f, g.HasPath child := by
  intro child hchild
  obtain ⟨e, -, rfl⟩ := List.mem_map.1 hchild
  exact ⟨List.nodup_cons.2 ⟨hnew, h.distinct⟩, List.forall_mem_cons.2 ⟨hgate, h.gates⟩,
    congrArg (· + 1) h.length⟩

/-- All frames that wait have their paths, and no step is deeper than there are conditions and operators. -/
structure WalkInvariant (g : Graph) (s : WalkState) : Prop where
  frames : ∀ f ∈ s.stack, g.HasPath f
  steps : ∀ step ∈ s.steps, step.depth ≤ g.gates.length

theorem walkInvariant_start (g : Graph) (id : String) : g.WalkInvariant (walkStart id) where
  frames := List.forall_mem_singleton.2 ⟨List.nodup_nil, nofun, rfl⟩
  steps := nofun

theorem WalkInvariant.taken {f : Frame} {stack : List Frame} {steps : List Step} {actions actions' : List String}
    (h : g.WalkInvariant ⟨f :: stack, steps, actions⟩) {s : Step} (hs : s.depth = f.depth) :
    g.WalkInvariant ⟨stack, steps ++ [s], actions'⟩ := by
  obtain ⟨hf, hstack⟩ := List.forall_mem_cons.1 h.frames
  exact ⟨hstack, List.forall_mem_append.2 ⟨h.steps, List.forall_mem_singleton.2 (hs ▸ hf.depth_le)⟩⟩

theorem Turns.invariant {s t : WalkState} (hturns : g.Turns inputs s t) (h : g.WalkInvariant s) :
    g.WalkInvariant t := by
  cases hturns with
  | unknown unknown => exact ⟨(List.forall_mem_cons.1 h.frames).2, h.steps⟩
  | repeated known onPath => exact h.taken rfl
  | fired known new entered acts => exact h.taken (enter_step entered).2.1
  | stopped known new entered tests closed => exact h.taken (enter_step entered).2.1
  | @passed f stack steps actions n s known new entered tests opened =>
    have htaken : g.WalkInvariant ⟨stack, steps ++ [s], actions⟩ := h.taken (enter_step entered).2.1
    have hf := (List.forall_mem_cons.1 h.frames).1
    have hpushed := hf.children new (mem_gates_of_tests known tests)
    exact ⟨List.forall_mem_append.2 ⟨hpushed, htaken.frames⟩, htaken.steps⟩

theorem Runs.invariant {s t : WalkState} {n : Nat} (hruns : g.Runs inputs s n t) (h : g.WalkInvariant s) :
    g.WalkInvariant t := by
  induction hruns with
  | refl s => exact h
  | next hturn rest ih => exact ih ((turns_of_next hturn).invariant h)

theorem Runs.add_turnsLeft_le {s t : WalkState} {n : Nat} (hruns : g.Runs inputs s n t) :
    n + g.turnsLeft t ≤ g.turnsLeft s := by
  induction hruns with
  | refl s => exact Nat.le_of_eq (Nat.zero_add _)
  | next hturn rest ih =>
    have hlt := (turns_of_next hturn).turnsLeft_lt
    omega

theorem exists_runs_walk (g : Graph) (inputs : Inputs) (s : WalkState) :
    ∃ n t, g.Runs inputs s n t ∧ g.turn inputs t = .done (g.walk inputs s) := by
  fun_induction walk g inputs s with
  | case1 s result hdone => exact ⟨0, s, .refl s, hdone⟩
  | case2 s t hnext ih =>
    obtain ⟨n, u, hruns, hdone⟩ := ih
    exact ⟨n + 1, u, .next hnext hruns, hdone⟩

theorem turnsLeft_walkStart (g : Graph) (id : String) :
    g.turnsLeft (walkStart id) = Nat.pow (g.edges.length + 1) g.ids.length := by
  change g.frameWeight ⟨id, 0, []⟩ + 0 = _
  simp [frameWeight, unvisited]

theorem depth_le_of_walk {id : String} {e : Evaluation} (h : g.walk inputs (walkStart id) = .ok e) :
    ∀ s ∈ e.steps, s.depth ≤ g.gates.length := by
  obtain ⟨n, t, hruns, hdone⟩ := g.exists_runs_walk inputs (walkStart id)
  rw [h] at hdone
  have hinvariant := hruns.invariant (g.walkInvariant_start id)
  cases stops_of_done hdone with
  | empty => exact hinvariant.steps

/-- The loop of the walk from any block ends with the outcome of the walk, and no run of it is longer than the blocks
and edges allow. What is on the path to a frame that waits is different conditions and operators, as many as the
frame is deep. So no step of a trace is deeper than there are identifiers of conditions and operators. -/
theorem walks_stay_shallow (g : Graph) (inputs : Inputs) :
    (∀ id,
      (∃ n t, g.Runs inputs (walkStart id) n t ∧ g.turn inputs t = .done (g.walk inputs (walkStart id))) ∧
      ∀ n t, g.Runs inputs (walkStart id) n t →
        n ≤ Nat.pow (g.edges.length + 1) g.ids.length ∧
        ∀ f ∈ t.stack, f.path.Nodup ∧ f.path.length = f.depth ∧
          ∀ a ∈ f.path, (∃ c, g.block? a = some (.condition c)) ∨ ∃ o, g.block? a = some (.operator o)) ∧
    g.gates.Nodup ∧
    (∀ id, id ∈ g.gates ↔ (∃ c, g.block? id = some (.condition c)) ∨ ∃ o, g.block? id = some (.operator o)) ∧
    ∀ e, g.evaluate inputs = .ok e → ∀ s ∈ e.steps, s.depth ≤ g.gates.length := by
  refine ⟨fun id => ⟨g.exists_runs_walk inputs _, fun n t hruns => ⟨?_, fun f hf => ?_⟩⟩, g.nodup_gates,
    fun id => mem_gates_iff, fun e h s hs => ?_⟩
  · have hle := hruns.add_turnsLeft_le
    rw [turnsLeft_walkStart] at hle
    omega
  · have hpath := (hruns.invariant (g.walkInvariant_start id)).frames f hf
    exact ⟨hpath.distinct, hpath.length, fun a ha => mem_gates_iff.1 (hpath.gates a ha)⟩
  · rw [evaluate_eq_flatMapM] at h
    obtain ⟨steps, hsteps, rfl⟩ := Gathering.exists_of_map_ok h
    obtain ⟨root, -, ys, hys, hmem⟩ := (Gathering.mem_of_flatMapM_ok hsteps s).1 hs
    have hwalk : g.walk inputs (walkStart root.id) = .ok (.ofSteps ys) := by rw [walk_eq_branch, hys]; rfl
    exact depth_le_of_walk hwalk s hmem

/-- A door that leads to a stove, which two edges lead back to itself. -/
def turningStove : Graph where
  nodes :=
    [⟨"door", default, .condition ⟨some "door", none, some "===", .int 1, none⟩⟩,
      ⟨"stove", default, .condition ⟨some "stove", none, some "===", .int 2, none⟩⟩]
  edges := [⟨"", "door", "stove"⟩, ⟨"", "stove", "stove"⟩, ⟨"", "stove", "stove"⟩]

def turningEvaluation : Evaluation := .ofSteps
  [⟨"door", .condition true, "door === 1", 0⟩, ⟨"stove", .condition true, "stove === 2", 1⟩,
    skip "stove" 2, skip "stove" 2]

/-- A trace may be as deep as there are conditions and operators. -/
theorem turningStove_deepest : turningStove.evaluate loopedInputs = .ok turningEvaluation ∧
    turningStove.gates.length = 2 ∧ skip "stove" 2 ∈ turningEvaluation.steps ∧
    ∀ s ∈ turningEvaluation.steps, s.depth ≤ turningStove.gates.length := by
  have h : turningStove.evaluate loopedInputs = .ok turningEvaluation := by decide +kernel
  exact ⟨h, by decide, by decide, (walks_stay_shallow turningStove loopedInputs).2.2.2 _ h⟩

end BlockRules.Graph
