import BlockRules.Evaluation.Turn
import BlockRules.Rule.Unvisited

set_option autoImplicit false

/-!
# Walking a rule

An evaluation walks from every root, in order. Paths hold different blocks, so that the number of blocks not yet on
a path bounds what can follow a frame; every turn leaves less to do, and the walk ends.
-/
namespace BlockRules

namespace Graph

/-- A bound on the visits that can come of a frame. -/
def frameWeight (g : Graph) (f : Frame) : Nat := Nat.pow (g.edges.length + 1) (g.unvisited f.path)

def stackWeight (g : Graph) : List Frame → Nat
  | [] => 0
  | f :: stack => g.frameWeight f + stackWeight g stack

theorem frameWeight_pos (g : Graph) (f : Frame) : 0 < g.frameWeight f := Nat.pow_pos (Nat.succ_pos _)

theorem stackWeight_cons (g : Graph) (f : Frame) (stack : List Frame) :
    g.stackWeight (f :: stack) = g.frameWeight f + g.stackWeight stack := rfl

theorem stackWeight_append (g : Graph) (xs ys : List Frame) :
    g.stackWeight (xs ++ ys) = g.stackWeight xs + g.stackWeight ys := by
  induction xs with
  | nil => simp [stackWeight]
  | cons f xs ih =>
    rw [List.cons_append, stackWeight_cons, stackWeight_cons, ih, Nat.add_assoc]

theorem stackWeight_map {α : Type} {g : Graph} (frame : α → Frame) {weight : Nat}
    (h : ∀ x, g.frameWeight (frame x) = weight) (xs : List α) :
    g.stackWeight (xs.map frame) = xs.length * weight := by
  induction xs with
  | nil => simp [stackWeight]
  | cons x xs ih =>
    rw [List.map_cons, stackWeight_cons, ih, h, List.length_cons, Nat.succ_mul, Nat.add_comm]

theorem stackWeight_children_lt {g : Graph} {f : Frame} (hid : f.id ∈ g.ids) (hpath : f.id ∉ f.path) :
    g.stackWeight (g.children f) < g.frameWeight f := by
  have hlt := unvisited_cons_lt hid hpath
  have hlen : (g.outgoing f.id).length < g.edges.length + 1 := Nat.lt_succ_of_le (List.length_filter_le _ _)
  have hsum : g.stackWeight (g.children f) =
      (g.outgoing f.id).length * Nat.pow (g.edges.length + 1) (g.unvisited (f.id :: f.path)) :=
    stackWeight_map (fun e : Edge => ⟨e.target, f.depth + 1, f.id :: f.path⟩) (fun _ => rfl) _
  rw [hsum, frameWeight]
  calc (g.outgoing f.id).length * Nat.pow (g.edges.length + 1) (g.unvisited (f.id :: f.path))
      < (g.edges.length + 1) * Nat.pow (g.edges.length + 1) (g.unvisited (f.id :: f.path)) :=
        Nat.mul_lt_mul_of_pos_right hlen (Nat.pow_pos (Nat.succ_pos _))
    _ = Nat.pow (g.edges.length + 1) (g.unvisited (f.id :: f.path) + 1) := Nat.mul_comm _ _
    _ ≤ Nat.pow (g.edges.length + 1) (g.unvisited f.path) := Nat.pow_le_pow_right (Nat.succ_pos _) hlt

def turnsLeft (g : Graph) (s : WalkState) : Nat := g.stackWeight s.stack

theorem Turns.turnsLeft_lt {g : Graph} {inputs : Inputs} {s t : WalkState} (h : g.Turns inputs s t) :
    g.turnsLeft t < g.turnsLeft s := by
  cases h with
  | @unknown f | @repeated f | @fired f | @stopped f => exact Nat.lt_add_of_pos_left (g.frameWeight_pos f)
  | passed known new entered tests opened =>
    have hlt := stackWeight_children_lt (mem_ids_of_node? known) new
    simp only [turnsLeft, stackWeight_append, stackWeight_cons]
    omega

def walk (g : Graph) (inputs : Inputs) (s : WalkState) : Except ComparisonError Evaluation :=
  match _h : g.turn inputs s with
  | .done result => result
  | .next t => walk g inputs t
termination_by g.turnsLeft s
decreasing_by exact (turns_of_next _h).turnsLeft_lt

def walkStart (id : String) : WalkState := ⟨[⟨id, 0, []⟩], [], []⟩

def walkFrom (g : Graph) (inputs : Inputs) (root : Node) : Except ComparisonError Evaluation :=
  g.walk inputs (walkStart root.id)

/-- The evaluation of a rule: those from its roots, in order. -/
def evaluate (g : Graph) (inputs : Inputs) : Except ComparisonError Evaluation :=
  g.roots.foldlM (fun result root => (g.walkFrom inputs root).map result.merge) Evaluation.empty

end Graph

end BlockRules
