import BlockRules.Document.Basic
import BlockRules.Schema.Field

set_option autoImplicit false

/-!
# Reading documents

Documents are read from values. Fields that are left out get their defaults, unknown fields are ignored, and
every problem is reported. What kind of block a node is stands in the node; its payload is read accordingly.
-/
namespace BlockRules
open Checked

namespace Condition

def ofFields (fields : List (Scalar × Value)) : Checked Condition :=
  app (app (app (app (app (.ok mk)
    ((FieldName.single "field").optional none (nullable text) fields))
    ((FieldName.single "variable").optional none (nullable text) fields))
    ((FieldName.single "operator").optional none (nullable text) fields))
    ((FieldName.single "value").optional .null .ok fields))
    ((FieldName.single "label").optional none (nullable text) fields)

def ofValue (mode : ReadMode) (v : Value) : Checked Condition := record mode v >>= ofFields

def unset : Condition := ⟨none, none, none, .null, none⟩

end Condition

namespace Operator

def ofFields (fields : List (Scalar × Value)) : Checked Operator :=
  app (app (app (.ok mk)
    ((FieldName.mk "operatorType" "operator_type").optional none (nullable text) fields))
    ((FieldName.single "operator").optional none (nullable text) fields))
    ((FieldName.single "label").optional none (nullable text) fields)

def ofValue (mode : ReadMode) (v : Value) : Checked Operator := record mode v >>= ofFields

def unset : Operator := ⟨none, none, none⟩

end Operator

namespace Action

def ofFields (fields : List (Scalar × Value)) : Checked Action :=
  app (app (app (app (.ok mk)
    ((FieldName.mk "actionType" "action_type").optional none (nullable text) fields))
    ((FieldName.single "target").optional none (nullable text) fields))
    ((FieldName.single "parameters").optional none (nullable text) fields))
    ((FieldName.single "label").optional none (nullable text) fields)

def ofValue (mode : ReadMode) (v : Value) : Checked Action := record mode v >>= ofFields

def unset : Action := ⟨none, none, none, none⟩

end Action

namespace Position

def origin : Position := ⟨.finite false .zero, .finite false .zero⟩

def ofFields (fields : List (Scalar × Value)) : Checked Position :=
  app (app (.ok mk)
    ((FieldName.single "x").optional origin.x number fields))
    ((FieldName.single "y").optional origin.y number fields)

def ofValue (mode : ReadMode) (v : Value) : Checked Position := record mode v >>= ofFields

end Position

inductive BlockKind where
  | condition
  | operator
  | action
  deriving DecidableEq

namespace BlockKind

def all : List BlockKind := [condition, operator, action]

def name : BlockKind → String
  | condition => "condition"
  | operator => "operator"
  | action => "action"

def ofName? (s : String) : Option BlockKind := all.find? fun k => k.name == s

theorem ofName?_name (k : BlockKind) : ofName? k.name = some k := by
  cases k <;> decide

def block (mode : ReadMode) (kind : BlockKind) (payload : Value) : Checked Block :=
  match kind with
  | condition => (Condition.ofValue mode payload).map .condition
  | operator => (Operator.ofValue mode payload).map .operator
  | action => (Action.ofValue mode payload).map .action

def unset : BlockKind → Block
  | condition => .condition .unset
  | operator => .operator .unset
  | action => .action .unset

def confirm (kind : BlockKind) : Value → Checked Unit
  | .text s => if s = kind.name then .ok () else fail .literal
  | _ => fail .literal

end BlockKind

namespace Block

def kind : Block → BlockKind
  | condition _ => .condition
  | operator _ => .operator
  | action _ => .action

end Block

namespace Node

def kindField : FieldName := ⟨"type", "kind"⟩

/-- The kind that decides how a node is read. Here the second name goes first. -/
def tag? (fields : List (Scalar × Value)) : Checked BlockKind :=
  match (Value.get? fields kindField.other).or (Value.get? fields kindField.main) with
  | none => fail .tagMissing
  | some (.text s) => match BlockKind.ofName? s with
    | some kind => .ok kind
    | none => fail .tagInvalid
  | some _ => fail .tagInvalid

def ofFields (mode : ReadMode) (kind : BlockKind) (fields : List (Scalar × Value)) : Checked Node :=
  app (app (app (app (.ok fun id _ position block => ⟨id, position, block⟩)
    ((FieldName.single "id").required text fields))
    (kindField.optional () kind.confirm fields))
    ((FieldName.single "position").optional .origin (Position.ofValue mode) fields))
    ((FieldName.mk "data" "payload").optional kind.unset (kind.block mode) fields)

def ofValue (mode : ReadMode) (v : Value) : Checked Node := do
  let fields ← record .request v
  let kind ← tag? fields
  at_ (.field kind.name) (ofFields mode kind fields)

end Node

namespace Edge

def ofFields (fields : List (Scalar × Value)) : Checked Edge :=
  app (app (app (.ok mk)
    ((FieldName.single "id").optional "" text fields))
    ((FieldName.single "source").required text fields))
    ((FieldName.single "target").required text fields)

def ofValue (mode : ReadMode) (v : Value) : Checked Edge := record mode v >>= ofFields

end Edge

namespace Graph

def ofFields (mode : ReadMode) (fields : List (Scalar × Value)) : Checked Graph :=
  app (app (.ok mk)
    ((FieldName.single "nodes").optional [] (list (Node.ofValue mode)) fields))
    ((FieldName.single "edges").optional [] (list (Edge.ofValue mode)) fields)

def ofValue (mode : ReadMode) (v : Value) : Checked Graph := record mode v >>= ofFields mode

end Graph

namespace AlarmType

/-- The name may be given as a text or as the bytes of one. -/
def ofValue (v : Value) : Checked AlarmType :=
  match text v with
  | .ok s => match ofName? s with
    | some t => .ok t
    | none => fail .choice
  | .error _ => fail .choice

end AlarmType

namespace AlarmSettings

def ofFields (fields : List (Scalar × Value)) : Checked AlarmSettings :=
  app (app (app (app (app (app (app (app (app (app (app (.ok mk)
    ((FieldName.mk "audioEnabled" "audio_enabled").optional default.audioEnabled bool fields))
    ((FieldName.mk "audioFrequency" "audio_frequency").optional default.audioFrequency number fields))
    ((FieldName.mk "audioDuration" "audio_duration").optional default.audioDuration number fields))
    ((FieldName.mk "audioVolume" "audio_volume").optional default.audioVolume number fields))
    ((FieldName.mk "voiceEnabled" "voice_enabled").optional default.voiceEnabled bool fields))
    ((FieldName.mk "voiceRate" "voice_rate").optional default.voiceRate number fields))
    ((FieldName.mk "voicePitch" "voice_pitch").optional default.voicePitch number fields))
    ((FieldName.mk "visualEnabled" "visual_enabled").optional default.visualEnabled bool fields))
    ((FieldName.mk "visualDuration" "visual_duration").optional default.visualDuration number fields))
    ((FieldName.mk "notificationEnabled" "notification_enabled").optional default.notificationEnabled bool fields))
    ((FieldName.mk "alarmType" "alarm_type").optional default.alarmType AlarmType.ofValue fields)

def ofValue (mode : ReadMode) (v : Value) : Checked AlarmSettings := record mode v >>= ofFields

end AlarmSettings

namespace Document

def ofFields (mode : ReadMode) (fields : List (Scalar × Value)) : Checked Document :=
  app (app (app (app (app (app (app (app (app (.ok mk)
    (Graph.ofFields mode fields))
    ((FieldName.single "id").optional none (nullable text) fields))
    ((FieldName.single "name").optional "" text fields))
    ((FieldName.mk "alarmConfig" "alarm_config").optional none (nullable (AlarmSettings.ofValue mode)) fields))
    ((FieldName.mk "naturalLanguage" "natural_language").optional none (nullable text) fields))
    ((FieldName.mk "isValid" "is_valid").optional false bool fields))
    ((FieldName.mk "createdAt" "created_at").optional none (nullable moment) fields))
    ((FieldName.mk "updatedAt" "updated_at").optional none (nullable moment) fields))
    ((FieldName.mk "userId" "user_id").optional none (nullable text) fields)

def ofValue (mode : ReadMode) (v : Value) : Checked Document := record mode v >>= ofFields mode

end Document

end BlockRules
