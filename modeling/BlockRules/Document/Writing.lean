import BlockRules.Calendar.Written
import BlockRules.Document.Reading
import BlockRules.Value.Written

set_option autoImplicit false

/-!
# Writing documents

A document as a value that holds plain data only: moments and dates become text, keys become text, and a number
that is not finite becomes null where it stands for itself. Parts that are not set are left out. Nothing stands for
what cannot be plain data.
-/
namespace BlockRules

namespace Scalar

def plain : Scalar → Scalar
  | float x => if x.isFinite then .float x else .null
  | bytes data => .text (String.ofList ((Text.decodeUtf8 data).getD (data.map fun b => Char.ofNat b.toNat)))
  | date d => .text (String.ofList d.written)
  | moment m => .text m.documentText
  | s => s

def keyText : Scalar → String
  | null => "None"
  | bool b => if b then "true" else "false"
  | float x => if x.isFinite then x.text else "None"
  | int n => String.ofList (writtenInt n)
  | text s => s
  | bytes data => String.ofList ((Text.decodeUtf8 data).getD (data.map fun b => Char.ofNat b.toNat))
  | date d => String.ofList d.written
  | moment m => m.documentText

end Scalar

namespace Value

mutual

def plain : Value → Value
  | .scalar s => .scalar s.plain
  | .list items => .list (plainItems items)
  | .object fields => ofFields (plainFields fields)
  | .entry key content => .list [key.plain, content.plain]
  | .set members => .list (members.map fun s => .scalar s.plain)
  | .again isObject => if isObject then .object [] else .list []

def plainItems : List Value → List Value
  | [] => []
  | item :: rest => item.plain :: plainItems rest

def plainFields : List (Scalar × Value) → List (Scalar × Value)
  | [] => []
  | (key, content) :: rest => (.text key.keyText, content.plain) :: plainFields rest

end

def named (fields : List (String × Value)) : Value := .object (fields.map fun f => (.text f.1, f.2))

/-- A named field that is left out when it is not set. -/
def whenSet {α : Type} (name : String) (write : α → Value) (x : Option α) : List (String × Value) :=
  (x.map fun a => (name, write a)).toList

end Value

open Value (named whenSet)

namespace Condition

def toValue (c : Condition) : Value :=
  named (whenSet "field" .text c.field ++ whenSet "variable" .text c.legacyField ++
    whenSet "operator" .text c.operator ++
    (match c.value with
      | .null => []
      | v => [("value", v.plain)]) ++
    whenSet "label" .text c.label)

end Condition

namespace Operator

def toValue (o : Operator) : Value :=
  named (whenSet "operatorType" .text o.operatorType ++ whenSet "operator" .text o.legacyType ++
    whenSet "label" .text o.label)

end Operator

namespace Action

def toValue (a : Action) : Value :=
  named (whenSet "actionType" .text a.actionType ++ whenSet "target" .text a.target ++
    whenSet "parameters" .text a.parameters ++ whenSet "label" .text a.label)

end Action

namespace Block

def toValue : Block → Value
  | condition c => c.toValue
  | operator o => o.toValue
  | action a => a.toValue

end Block

namespace Position

def toValue (p : Position) : Value := named [("x", .float p.x), ("y", .float p.y)]

end Position

namespace Node

def toValue (n : Node) : Value :=
  named [("id", .text n.id), ("type", .text n.block.kind.name), ("position", n.position.toValue),
    ("data", n.block.toValue)]

end Node

namespace Edge

def toValue (e : Edge) : Value :=
  named [("id", .text e.id), ("source", .text e.source), ("target", .text e.target)]

end Edge

namespace AlarmSettings

def toValue (a : AlarmSettings) : Value :=
  named [("audioEnabled", .bool a.audioEnabled), ("audioFrequency", .float a.audioFrequency),
    ("audioDuration", .float a.audioDuration), ("audioVolume", .float a.audioVolume),
    ("voiceEnabled", .bool a.voiceEnabled), ("voiceRate", .float a.voiceRate),
    ("voicePitch", .float a.voicePitch), ("visualEnabled", .bool a.visualEnabled),
    ("visualDuration", .float a.visualDuration), ("notificationEnabled", .bool a.notificationEnabled),
    ("alarmType", .text a.alarmType.name)]

end AlarmSettings

namespace Document

def toFields (d : Document) : List (String × Value) :=
  [("nodes", .list (d.nodes.map Node.toValue)), ("edges", .list (d.edges.map Edge.toValue))] ++
    whenSet "id" .text d.id ++ [("name", .text d.name)] ++ whenSet "alarmConfig" AlarmSettings.toValue d.alarm ++
    whenSet "naturalLanguage" .text d.naturalLanguage ++ [("isValid", .bool d.isValid)] ++
    whenSet "createdAt" (fun m => .text m.documentText) d.createdAt ++
    whenSet "updatedAt" (fun m => .text m.documentText) d.updatedAt ++ whenSet "userId" .text d.userId

def toValue (d : Document) : Value := named d.toFields

/-- The fields that an export keeps, in its order. -/
def exportNames : List String := ["name", "nodes", "edges", "naturalLanguage", "createdAt", "updatedAt"]

def exportFields (d : Document) : List (String × Value) :=
  exportNames.filterMap fun name => (d.toFields.lookup name).map fun v => (name, v)

def exportValue (d : Document) : Value := named d.exportFields

end Document

end BlockRules
