import BlockRules.Yaml.Merge
import BlockRules.Yaml.Scalar

set_option autoImplicit false

namespace BlockRules.Yaml

/-- A key of an object: a scalar, and what tells it from others that are not equal to themselves. -/
structure Key where
  scalar : Scalar
  origin : Nat

namespace Key

def same (a b : Key) : Bool :=
  a.scalar.same b.scalar || (a.origin == b.origin && a.scalar matches .float .nan && b.scalar matches .float .nan)

end Key

inductive Part where
  | scalar (key : Key)
  | list (items : List Nat)
  | object (fields : List (Key × Nat))
  | set (members : List Key)
  | entries (entries : Entries)

def putField (fields : List (Key × Nat)) (key : Key) (content : Nat) : List (Key × Nat) :=
  match fields with
  | [] => [(key, content)]
  | f :: rest => if f.1.same key then (f.1, content) :: rest else f :: putField rest key content

/-- The nodes, the parts made of them so far, and the collections to be filled, the last one first. -/
structure Assembly where
  nodes : Array Node
  parts : Array (Option Part)
  unfilled : List Nat

abbrev Assembler (α : Type) := StateT Assembly (Except ReadError) α

/-- The text of a node that is read as a scalar; a mapping stands for its default. The first argument bounds the
number of mappings on the way. -/
def scalarText (nodes : Array Node) : Nat → Nat → Except ReadError (List Char)
  | 0, _ => .error .tooDeep
  | fuel + 1, number => match (nodes[number]?).map Node.content with
    | some (.scalar text) => .ok text
    | some (.mapping entries) => match entries.find? fun e => Merger.tagOf nodes e.1 == .default with
      | some e => scalarText nodes fuel e.2
      | none => .error .malformed
    | _ => .error .malformed

namespace Assembler

def setPart (number : Nat) (part : Part) : Assembler Unit :=
  modify fun a => { a with parts := a.parts.setIfInBounds number (some part) }

def begin (number : Nat) (part : Part) : Assembler Unit := do
  setPart number part
  modify fun a => { a with unfilled := number :: a.unfilled }

def readKey (number : Nat) (n : Node) : Assembler Key := do
  let nodes := (← get).nodes
  let text ← scalarText nodes (nodes.size + 1) number
  if n.tag = .timestamp ∧ n.content matches .mapping _ then throw .momentOfMapping
  let scalar ← readScalar n.tag text
  return ⟨scalar, if n.tag = .float ∧ isNanName text then nodes.size else number⟩

def start (number : Nat) : Assembler Unit := do
  let a ← get
  if (a.parts[number]?.join).isSome then return
  let n := (a.nodes[number]?).getD .empty
  match n.tag with
  | .list => begin number (.list [])
  | .object => begin number (.object [])
  | .set => begin number (.set [])
  | .orderedEntries => begin number (.entries [])
  | .entries => begin number (.entries [])
  | .merge => throw .malformed
  | .default => throw .malformed
  | .other => throw .malformed
  | _ => setPart number (.scalar (← readKey number n))

def readFields (number : Nat) : Assembler (List (Key × Nat)) := do
  let nodes ← modifyGet fun a => (a.nodes, { a with nodes := #[] })
  let (entries, nodes) ← (Merger.flatten number).run nodes
  modify fun a => { a with nodes }
  entries.foldlM
    (fun fields (key, content) => do
      start key
      match (← get).parts[key]?.join with
      | some (.scalar k) =>
        start content
        return putField fields k content
      | _ => throw .malformed)
    []

def readEntry (number : Nat) : Assembler (Nat × Nat) := do
  match ((← get).nodes[number]?).map Node.content with
  | some (.mapping [(key, content)]) =>
    start key
    start content
    return (key, content)
  | _ => throw .malformed

def fill (number : Nat) : Assembler Unit := do
  let n := ((← get).nodes[number]?).getD .empty
  match n.tag, n.content with
  | .list, .sequence items =>
    items.forM start
    setPart number (.list items)
  | .orderedEntries, .sequence items => setPart number (.entries (← items.mapM readEntry))
  | .entries, .sequence items => setPart number (.entries (← items.mapM readEntry))
  | .object, .mapping _ => setPart number (.object (← readFields number))
  | .set, .mapping _ => setPart number (.set ((← readFields number).map (·.1)))
  | _, _ => throw .malformed

def fillAll : Nat → Assembler Unit
  | 0 => return ()
  | fuel + 1 => do
    let a ← get
    if a.unfilled.isEmpty then return
    set { a with unfilled := [] }
    a.unfilled.reverse.forM fill
    fillAll fuel

end Assembler

/-- The parts of a document, by the numbers of their nodes. Each round fills at least one of the nodes. -/
def NodeGraph.parts (g : NodeGraph) : Except ReadError (Array (Option Part)) :=
  let assemble : Assembler Unit := do
    Assembler.start g.root
    Assembler.fillAll (g.nodes.size + 1)
  (assemble.run ⟨g.nodes, g.nodes.map fun _ => none, []⟩).map fun (_, a) => a.parts

end BlockRules.Yaml
