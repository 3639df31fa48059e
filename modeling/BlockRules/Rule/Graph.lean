import BlockRules.Rule.Block

set_option autoImplicit false

/-!
# Rule graphs

A rule is a list of nodes and a list of directed edges. Identifiers may repeat and edges may lead nowhere: the
first node with an identifier is the one meant by it, and an edge end that is no identifier has no node.
-/
namespace BlockRules

structure Graph where
  nodes : List Node
  edges : List Edge
  deriving Inhabited

namespace Graph

def node? (g : Graph) (id : String) : Option Node := g.nodes.find? fun n => n.id == id

def block? (g : Graph) (id : String) : Option Block := (g.node? id).map (·.block)

def outgoing (g : Graph) (id : String) : List Edge := g.edges.filter fun e => e.source == id

def incoming (g : Graph) (id : String) : List Edge := g.edges.filter fun e => e.target == id

def roots (g : Graph) : List Node := g.nodes.filter fun n => !g.edges.any fun e => e.target == n.id

def conditions (g : Graph) : List (String × Condition) :=
  g.nodes.filterMap fun n => match n.block with
    | .condition c => some (n.id, c)
    | _ => none

def operators (g : Graph) : List (String × Operator) :=
  g.nodes.filterMap fun n => match n.block with
    | .operator o => some (n.id, o)
    | _ => none

def actions (g : Graph) : List (String × Action) :=
  g.nodes.filterMap fun n => match n.block with
    | .action a => some (n.id, a)
    | _ => none

def hasNode (g : Graph) (id : String) : Bool := g.nodes.any fun n => n.id == id

def isConnected (g : Graph) (id : String) : Bool := g.edges.any fun e => e.source == id || e.target == id

def ids (g : Graph) : List String := (g.nodes.map (·.id)).eraseDups

/-- The nodes meant by some identifier: those that are first with theirs. -/
def index (g : Graph) : List Node := g.ids.filterMap g.node?

theorem node?_id {g : Graph} {id : String} {n : Node} (h : g.node? id = some n) : n.id = id := by
  have := List.find?_some h
  simpa using this

theorem node?_mem {g : Graph} {id : String} {n : Node} (h : g.node? id = some n) : n ∈ g.nodes :=
  List.mem_of_find?_eq_some h

theorem isSome_node? (g : Graph) (id : String) : (g.node? id).isSome = g.hasNode id := by
  rw [Bool.eq_iff_iff, node?, hasNode, List.find?_isSome, List.any_eq_true]

theorem exists_node?_of_mem {g : Graph} {n : Node} (h : n ∈ g.nodes) : ∃ m, g.node? n.id = some m := by
  rw [← Option.isSome_iff_exists, isSome_node?, hasNode, List.any_eq_true]
  exact ⟨n, h, beq_self_eq_true _⟩

theorem block?_of_node? {g : Graph} {id : String} {n : Node} (h : g.node? id = some n) :
    g.block? id = some n.block := by
  rw [block?, h, Option.map_some]

theorem block?_of_unknown {g : Graph} {id : String} (h : g.node? id = none) : g.block? id = none := by
  rw [block?, h, Option.map_none]

theorem exists_node_of_block? {g : Graph} {id : String} {b : Block} (h : g.block? id = some b) :
    ∃ n ∈ g.nodes, n.id = id ∧ n.block = b := by
  obtain ⟨n, hn, hb⟩ := Option.map_eq_some_iff.1 h
  exact ⟨n, node?_mem hn, node?_id hn, hb⟩

theorem mem_conditions_of_block? {g : Graph} {id : String} {c : Condition}
    (h : g.block? id = some (.condition c)) : (id, c) ∈ g.conditions := by
  obtain ⟨n, hn, rfl, hb⟩ := exists_node_of_block? h
  exact List.mem_filterMap.2 ⟨n, hn, by rw [hb]⟩

theorem mem_operators_of_block? {g : Graph} {id : String} {o : Operator}
    (h : g.block? id = some (.operator o)) : (id, o) ∈ g.operators := by
  obtain ⟨n, hn, rfl, hb⟩ := exists_node_of_block? h
  exact List.mem_filterMap.2 ⟨n, hn, by rw [hb]⟩

theorem mem_actions_of_block? {g : Graph} {id : String} {a : Action}
    (h : g.block? id = some (.action a)) : (id, a) ∈ g.actions := by
  obtain ⟨n, hn, rfl, hb⟩ := exists_node_of_block? h
  exact List.mem_filterMap.2 ⟨n, hn, by rw [hb]⟩

end Graph

end BlockRules
