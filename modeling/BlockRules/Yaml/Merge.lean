import BlockRules.Yaml.Node

set_option autoImplicit false

/-!
# Merged mappings

A mapping may take over the entries of others, which come before its own, so that its own count. Each merge key is
taken away before its mappings are looked at: mappings that merge each other are merged without end otherwise.
-/
namespace BlockRules.Yaml

abbrev Entries := List (Nat × Nat)

namespace NodeContent

def entries : NodeContent → Entries
  | mapping entries => entries
  | _ => []

/-- The numbers of the mappings that a merge key names, the ones that count most first; none if there is something
else. -/
def mergedMappings? (nodes : Array Node) (number : Nat) : NodeContent → Option (List Nat)
  | mapping _ => some [number]
  | sequence items =>
    let isMapping (item : Nat) : Bool := (nodes[item]?).any fun n => n.content matches .mapping _
    if items.all isMapping then some items else none
  | scalar _ => none

end NodeContent

abbrev Merger (α : Type) := StateT (Array Node) (Except ReadError) α

namespace Merger

def node (number : Nat) : Merger Node := return ((← get)[number]?).getD .empty

def tagOf (nodes : Array Node) (number : Nat) : Tag := ((nodes[number]?).getD .empty).tag

def entries (number : Nat) : Merger Entries := return (← node number).content.entries

def setEntries (number : Nat) (entries : Entries) : Merger Unit :=
  modify fun nodes => nodes.modify number fun n => { n with content := .mapping entries }

def takeMerge? (number : Nat) : Merger (Option Nat) := do
  let own ← entries number
  let nodes ← get
  match own.findIdx? fun e => tagOf nodes e.1 == .merge with
  | none => return none
  | some i =>
    setEntries number (own.eraseIdx i)
    return (own[i]?).map (·.2)

/-- The entries that a mapping takes over. The first argument bounds the number of merge keys. -/
def merged : Nat → Nat → Merger Entries
  | 0, _ => return []
  | fuel + 1, number => do
    match ← takeMerge? number with
    | none => return []
    | some source =>
      match (← node source).content.mergedMappings? (← get) source with
      | none => throw .malformed
      | some mappings =>
        let parts ← mappings.mapM fun mapping => do
          let before ← merged fuel mapping
          let own ← entries mapping
          setEntries mapping (before ++ own)
          return before ++ own
        return parts.reverse.flatten ++ (← merged fuel number)

def hasKey (tag : Tag) (nodes : Array Node) (entries : Entries) : Bool := entries.any fun e => tagOf nodes e.1 == tag

/-- The keys that stand for a mapping's own value are texts in a mapping with entries. -/
def nameDefaults (entries : Entries) : Merger Unit := do
  if hasKey .default (← get) entries then
    modify fun nodes => entries.foldl
      (fun nodes e => nodes.modify e.1 fun n => if n.tag = .default then { n with tag := .text } else n) nodes

def mergeCount (nodes : Array Node) : Nat :=
  (nodes.toList.flatMap fun n => n.content.entries.filter fun e => tagOf nodes e.1 == .merge).length

def flatten (number : Nat) : Merger Entries := do
  if hasKey .merge (← get) (← entries number) then
    let before ← merged (mergeCount (← get)) number
    setEntries number (before ++ (← entries number))
  let all ← entries number
  nameDefaults all
  return all

end Merger

end BlockRules.Yaml
