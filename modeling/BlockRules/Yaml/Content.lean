import BlockRules.Yaml.Part

set_option autoImplicit false

/-!
# Contents of documents

A document is read as a value. A part that does not lead back to a collection around it has one value, wherever it
stands, which is made once. A collection may be inside itself, though: the outer levels of a document, which are looked
at by name, are written out again then, and further in the value says only that the collection begins once more.
-/
namespace BlockRules.Yaml

abbrev Parts := Array (Option Part)

abbrev Values := Array (Option Value)

namespace Part

def value? (values : Values) : Part → Option Value
  | scalar key => some (.scalar key.scalar)
  | set members => some (.set (members.map (·.scalar)))
  | list items => (items.mapM fun item => values[item]?.join).map .list
  | entries pairs => (pairs.mapM entry?).map .list
  | object fields => (fields.mapM field?).map .object
where
  entry? (pair : Nat × Nat) : Option Value := do
    return .entry (← values[pair.1]?.join) (← values[pair.2]?.join)
  field? (field : Key × Nat) : Option (Scalar × Value) := do
    return (field.1.scalar, ← values[field.2]?.join)

end Part

namespace Parts

def settle (parts : Parts) (values : Values) (number : Nat) : Values :=
  match values[number]?.join, parts[number]?.join with
  | none, some part => values.setIfInBounds number (part.value? values)
  | _, _ => values

/-- Values become known from the last part to the first, until that gives no more of them. The first argument bounds
the number of times. -/
def settleAll (parts : Parts) : Nat → Values → Values
  | 0, values => values
  | fuel + 1, values =>
    let more := (List.range parts.size).reverse.foldl parts.settle values
    if more.countP Option.isSome = values.countP Option.isSome then more else parts.settleAll fuel more

def values (parts : Parts) : Values := parts.settleAll (parts.size + 1) (parts.map fun _ => none)

/-- The value of a part. So many outer levels may hold a collection again; further in, the collections around a
part are known by their numbers. The first argument bounds the depth. -/
def unfold (parts : Parts) (values : Values) : Nat → Nat → List Nat → Nat → Value
  | 0, _, _, _ => .null
  | fuel + 1, free, inside, number =>
    let around := if free = 0 then number :: inside else inside
    let value (part : Nat) : Value := parts.unfold values fuel (free - 1) around part
    match values[number]?.join, parts[number]?.join with
    | some v, _ => v
    | none, none => .null
    | none, some (.scalar key) => .scalar key.scalar
    | none, some (.set members) => .set (members.map (·.scalar))
    | none, some (.list items) => if inside.contains number then .again false else .list (items.map value)
    | none, some (.entries pairs) =>
      if inside.contains number then .again false
      else .list (pairs.map fun (key, content) => .entry (value key) (value content))
    | none, some (.object fields) =>
      if inside.contains number then .again true
      else .object (fields.map fun (key, content) => (key.scalar, value content))

/-- The levels of a document around the values of its conditions: the document, its nodes, a node, its data. There
is one more in a list of documents. -/
def outerLevels : Option Part → Nat
  | some (.list _) => 5
  | _ => 4

def whole (parts : Parts) (root : Nat) : Value :=
  let free := outerLevels parts[root]?.join
  parts.unfold parts.values (free + parts.size + 1) free [] root

end Parts

def read (text : List Char) : Except ReadError Value := do
  if text.any fun c => !isAllowed c then throw .malformed
  match ← NodeGraph.ofText text with
  | none => return .null
  | some g => return Parts.whole (← g.parts) g.root

end BlockRules.Yaml
