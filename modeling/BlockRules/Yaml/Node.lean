import BlockRules.Yaml.Tag
import BlockRules.Yaml.Token

set_option autoImplicit false

/-!
# Nodes of YAML

A document is a graph of scalars, sequences and mappings, each with a tag. Nodes are known by their numbers, so that
one to which others refer by name is in several places, and a collection may be inside itself. A text holds at most
one document.
-/
namespace BlockRules.Yaml

inductive NodeContent where
  | scalar (text : List Char)
  | sequence (items : List Nat)
  | mapping (entries : List (Nat × Nat))

structure Node where
  tag : Tag
  content : NodeContent

structure NodeGraph where
  nodes : Array Node
  root : Nat

namespace Node

def empty : Node := ⟨.null, .scalar []⟩

end Node

abbrev Handles := List (List Char × List Char)

namespace Handles

def standard : Handles := [(['!'], ['!']), (['!', '!'], Tag.namespaceText.toList)]

end Handles

/-- The tokens that are left, the nodes so far, and the numbers of those that have a name. -/
structure Reading where
  tokens : List Token
  nodes : Array Node
  named : List (List Char × Nat)

abbrev Reader (α : Type) := StateT Reading (Except ReadError) α

namespace Reader

def next? : Reader (Option Token) := do
  match (← get).tokens.head? with
  | some (.invalid e) => throw e
  | t => return t

def advance : Reader Unit := modify fun r => { r with tokens := r.tokens.drop 1 }

def refuse {α : Type} : Reader α := do
  discard next?
  throw .malformed

def nextIs (test : Token → Bool) : Reader Bool := return (← next?).any test

def accept (test : Token → Bool) : Reader Bool := do
  if ← nextIs test then
    advance
    return true
  else return false

def expect (test : Token → Bool) : Reader Unit := do
  if ← accept test then return () else refuse

/-- The name and the tag that come next, in either order, each of which may be missing. -/
def properties : Reader (Option (List Char) × Option WrittenTag) := do
  match ← next? with
  | some (.anchor name) =>
    advance
    match ← next? with
    | some (.tag t) =>
      advance
      return (some name, some t)
    | _ => return (some name, none)
  | some (.tag t) =>
    advance
    match ← next? with
    | some (.anchor name) =>
      advance
      return (some name, some t)
    | _ => return (none, some t)
  | _ => return (none, none)

def fullName (handles : Handles) (t : WrittenTag) : Reader (Option (List Char)) := do
  let name ← match t.handle with
    | none => pure t.suffix
    | some handle => match handles.lookup handle with
      | some start => pure (start ++ t.suffix)
      | none => throw .malformed
  return if name = ['!'] then none else some name

def add (name : Option (List Char)) (n : Node) : Reader Nat := do
  let r ← get
  if name.any fun name => (r.named.lookup name).isSome then throw .malformed
  let number := r.nodes.size
  set { r with nodes := r.nodes.push n, named := (name.map fun name => (name, number)).toList ++ r.named }
  return number

/-- A collection is added under its name before its parts are read, which may refer to it. -/
def collect (name : Option (List Char)) (tag : Tag) (content : Reader NodeContent) : Reader Nat := do
  let number ← add name ⟨tag, .sequence []⟩
  let content ← content
  modify fun r => { r with nodes := r.nodes.setIfInBounds number ⟨tag, content⟩ }
  return number

end Reader

inductive Context where
  | flow
  | block
  /-- In a block mapping, where a sequence need not be indented. -/
  | entry
  deriving DecidableEq

namespace Node
open Reader

def ofTag (tag : Option (List Char)) (absent : Tag) : Tag := (tag.map Tag.ofName).getD absent

def depthLimit : Nat := 487

mutual

/-- The node that comes next, at a depth. The first argument bounds the recursion. -/
def read (handles : Handles) : Nat → Nat → Context → Reader Nat
  | 0, _, _ => refuse
  | fuel + 1, depth, context => do
    if depthLimit < depth then throw .tooDeep
    match ← next? with
    | some (.aliasOf name) =>
      advance
      match (← get).named.lookup name with
      | some number => return number
      | none => throw .malformed
    | _ =>
      let (name, written) ← properties
      let tag ← match written with
        | some t => fullName handles t
        | none => pure none
      let sequence (items : Reader (List Nat)) : Reader Nat :=
        collect name (ofTag tag .list) (NodeContent.sequence <$> items)
      let mapping (entries : Reader (List (Nat × Nat))) : Reader Nat :=
        collect name (ofTag tag .object) (NodeContent.mapping <$> entries)
      match ← next? with
      | some (.scalar text plain) =>
        advance
        let untagged := if plain || written.isSome then Tag.ofPlain text else .text
        add name ⟨ofTag tag untagged, .scalar text⟩
      | some .blockEntry =>
        if context = .entry then sequence (readIndentless handles fuel depth) else absent name written tag
      | some .flowSequenceStart =>
        advance
        sequence (readFlowItems handles fuel depth true)
      | some .flowMappingStart =>
        advance
        mapping (readFlowEntries handles fuel depth true)
      | some .blockSequenceStart =>
        if context = .flow then absent name written tag
        else
          advance
          sequence (readBlockItems handles fuel depth)
      | some .blockMappingStart =>
        if context = .flow then absent name written tag
        else
          advance
          mapping (readBlockEntries handles fuel depth)
      | _ => absent name written tag
where
  absent (name : Option (List Char)) (written : Option WrittenTag) (tag : Option (List Char)) : Reader Nat := do
    if name.isNone && written.isNone then refuse else add name ⟨ofTag tag .null, .scalar []⟩

def readPart (handles : Handles) : Nat → Nat → Context → (Token → Bool) → Reader Nat
  | 0, _, _, _ => refuse
  | fuel + 1, depth, context, ends => do
    if (← next?).all ends then add none .empty else read handles fuel (depth + 1) context

def readBlockItems (handles : Handles) : Nat → Nat → Reader (List Nat)
  | 0, _ => refuse
  | fuel + 1, depth => do
    if ← accept (· matches .blockEntry) then
      let item ← readPart handles fuel depth .block fun t => t matches .blockEntry | .blockEnd
      return item :: (← readBlockItems handles fuel depth)
    else
      expect (· matches .blockEnd)
      return []

def readIndentless (handles : Handles) : Nat → Nat → Reader (List Nat)
  | 0, _ => refuse
  | fuel + 1, depth => do
    if ← accept (· matches .blockEntry) then
      let item ← readPart handles fuel depth .block fun t => t matches .blockEntry | .key | .value | .blockEnd
      return item :: (← readIndentless handles fuel depth)
    else return []

def readBlockEntries (handles : Handles) : Nat → Nat → Reader (List (Nat × Nat))
  | 0, _ => refuse
  | fuel + 1, depth => do
    let ends (t : Token) : Bool := t matches .key | .value | .blockEnd
    if ← accept (· matches .key) then
      let key ← readPart handles fuel depth .entry ends
      let content ←
        if ← accept (· matches .value) then readPart handles fuel depth .entry ends else add none .empty
      return (key, content) :: (← readBlockEntries handles fuel depth)
    else
      expect (· matches .blockEnd)
      return []

/-- The items of a flow sequence, the first of which has no comma before it. An entry among them is a mapping of
its own. -/
def readFlowItems (handles : Handles) : Nat → Nat → Bool → Reader (List Nat)
  | 0, _, _ => refuse
  | fuel + 1, depth, first => do
    if ← accept (· matches .flowSequenceEnd) then return []
    else
      if !first then expect (· matches .flowEntry)
      if ← accept (· matches .key) then
        let item ← collect none .object do
          let key ← readPart handles fuel (depth + 1) .flow fun t => t matches .value | .flowEntry | .flowSequenceEnd
          let content ←
            if ← accept (· matches .value) then
              readPart handles fuel (depth + 1) .flow fun t => t matches .flowEntry | .flowSequenceEnd
            else add none .empty
          return .mapping [(key, content)]
        return item :: (← readFlowItems handles fuel depth false)
      else if ← accept (· matches .flowSequenceEnd) then return []
      else
        let item ← read handles fuel (depth + 1) .flow
        return item :: (← readFlowItems handles fuel depth false)

def readFlowEntries (handles : Handles) : Nat → Nat → Bool → Reader (List (Nat × Nat))
  | 0, _, _ => refuse
  | fuel + 1, depth, first => do
    if ← accept (· matches .flowMappingEnd) then return []
    else
      if !first then expect (· matches .flowEntry)
      if ← accept (· matches .key) then
        let key ← readPart handles fuel depth .flow fun t => t matches .value | .flowEntry | .flowMappingEnd
        let content ←
          if ← accept (· matches .value) then
            readPart handles fuel depth .flow fun t => t matches .flowEntry | .flowMappingEnd
          else add none .empty
        return (key, content) :: (← readFlowEntries handles fuel depth false)
      else if ← accept (· matches .flowMappingEnd) then return []
      else
        let key ← read handles fuel (depth + 1) .flow
        return (key, ← add none .empty) :: (← readFlowEntries handles fuel depth false)

end

def readDirectives : Nat → Bool → Handles → Reader Handles
  | 0, _, _ => refuse
  | fuel + 1, versioned, handles => do
    match ← next? with
    | some (.directive (.version major)) =>
      if versioned || major != 1 then throw .malformed
      advance
      readDirectives fuel true handles
    | some (.directive (.tag handle start)) =>
      if (handles.lookup handle).isSome then throw .malformed
      advance
      readDirectives fuel versioned ((handle, start) :: handles)
    | some (.directive .other) =>
      advance
      readDirectives fuel versioned handles
    | _ => return handles ++ Handles.standard

def skipDocumentEnds : Nat → Reader Unit
  | 0 => return ()
  | fuel + 1 => do
    if ← accept (· matches .documentEnd) then skipDocumentEnds fuel

def readDocument (fuel : Nat) : Reader (Option Nat) := do
  let n ←
    if (← next?).all fun t => t matches .directive _ | .documentStart then
      skipDocumentEnds fuel
      if (← next?).isNone then return none
      let handles ← readDirectives fuel false []
      expect (· matches .documentStart)
      if (← next?).all fun t => t matches .directive _ | .documentStart | .documentEnd then add none .empty
      else read handles fuel 0 .block
    else read Handles.standard fuel 0 .block
  skipDocumentEnds fuel
  if (← next?).isSome then refuse
  return some n

end Node

namespace NodeGraph

/-- The document of a text. Each step of the recursion takes a token or ends a part that one began. -/
def ofText (text : List Char) : Except ReadError (Option NodeGraph) :=
  let tokens := tokens text
  ((Node.readDocument (4 * tokens.length + 8)).run ⟨tokens, #[], []⟩).map fun (root, r) =>
    root.map fun root => ⟨r.nodes, root⟩

end NodeGraph

end BlockRules.Yaml
