import BlockRules.Rule.Unvisited

set_option autoImplicit false

/-!
# Cycles

A depth-first search along the edges between nodes. The path holds the nodes that are open, the nearest first,
each with the targets not yet looked at; a target on the path closes a cycle. Nodes that were seen and are no
longer on the path lead to no cycle.
-/
namespace BlockRules

structure OpenNode where
  id : String
  pending : List String

inductive SearchEnd where
  | cycle (ids : List String)
  | seen (ids : List String)

namespace Graph

def targets (g : Graph) (id : String) : List String := (g.outgoing id).map (·.target)

def openNode (g : Graph) (id : String) : OpenNode := ⟨id, g.targets id⟩

def closeCycle (path : List OpenNode) (id : String) : List String :=
  ((path.map (·.id)).reverse.dropWhile fun a => a != id) ++ [id]

theorem mem_ids_iff_hasNode {g : Graph} {id : String} : id ∈ g.ids ↔ g.hasNode id = true := by
  simp [ids, hasNode]

def pendingCount : List OpenNode → Nat
  | [] => 0
  | o :: path => o.pending.length + 1 + pendingCount path

/-- The search from a path, with the nodes seen so far, those on the path included. -/
def search (g : Graph) (seen : List String) : List OpenNode → SearchEnd
  | [] => .seen seen
  | ⟨_, []⟩ :: path => search g seen path
  | ⟨id, target :: pending⟩ :: path =>
    if _known : g.hasNode target = false then search g seen (⟨id, pending⟩ :: path)
    else if target ∈ id :: path.map (·.id) then .cycle (closeCycle (⟨id, pending⟩ :: path) target)
    else if _new : target ∈ seen then search g seen (⟨id, pending⟩ :: path)
    else search g (target :: seen) (g.openNode target :: ⟨id, pending⟩ :: path)
termination_by path => (g.unvisited seen, pendingCount path)
decreasing_by
  · exact Prod.Lex.right _ (by simp [pendingCount])
  · exact Prod.Lex.right _ (by simp [pendingCount])
  · exact Prod.Lex.right _ (by simp [pendingCount])
  · exact Prod.Lex.left _ _ (unvisited_cons_lt (mem_ids_iff_hasNode.2 (by simpa using _known)) _new)

def searchAll (g : Graph) (seen : List String) : List String → Option (List String)
  | [] => none
  | start :: rest =>
    if start ∈ seen then searchAll g seen rest
    else match g.search (start :: seen) [g.openNode start] with
      | .cycle ids => some ids
      | .seen seen => searchAll g seen rest

/-- A cycle along edges between nodes, if there is one: its first node stands again at the end. -/
def findCycle (g : Graph) : Option (List String) := g.searchAll [] g.ids

end Graph

end BlockRules
