import BlockRules.Comparison.Comparator
import BlockRules.Document.Reading
import BlockRules.Json.Reading
import BlockRules.Text.Utf16
import BlockRules.Text.Utf8

set_option autoImplicit false

/-!
# Bodies of requests

What a request says in its body, which is JSON in one of the encodings of Unicode. Problems are reported with the
body as the first part of their places. A body that holds a surrogate on its own is set apart from the others: it can
be read, but what it says is no text here.
-/
namespace BlockRules
open Checked

inductive BodyError where
  | unreadable
  | loneSurrogate
  | invalid (problems : List Problem)

namespace Body

/-- The text of a body that was written as UTF-8, whatever the encoding was that its bytes were meant in. -/
def decode (body : List Char) : Except Text.DecodeError (List Char) :=
  let bytes := (String.ofList body).toUTF8.toList
  match Text.Encoding.ofZeros bytes with
  | .utf8 => .ok (Text.withoutMark body)
  | .utf16 order => Text.decodeUtf16 order bytes
  | .utf32 order => Text.decodeUtf32 order bytes

def problem (kind : ProblemKind) (inside : List Place) : BodyError := .invalid [⟨kind, .field "body" :: inside⟩]

def read {α : Type} (content : Value → Checked α) (body : List Char) : Except BodyError α :=
  if body = [] then .error (problem .missing [])
  else match (decode body).map Json.read with
    | .error .undecodable => .error .unreadable
    | .error .loneSurrogate => .error .loneSurrogate
    | .ok (.error (.malformed position)) => .error (problem .jsonInvalid [.index position])
    | .ok (.error (.longInt _)) => .error .unreadable
    | .ok (.error .tooDeep) => .error .unreadable
    | .ok (.error .loneSurrogate) => .error .loneSurrogate
    | .ok (.ok v) => (at_ (.field "body") (content v)).mapError .invalid

end Body

def Checked.inputs : Value → Checked Inputs
  | .object fields => .ok (fields.filterMap fun f => match f.1 with
    | .text name => some (name, f.2)
    | _ => none)
  | _ => fail .objectType

structure PrepareRequest where
  document : Document
  user : Option String

namespace PrepareRequest

def ofFields (fields : List (Scalar × Value)) : Checked PrepareRequest :=
  app (app (.ok mk)
    ((FieldName.single "rule").required (Document.ofValue .request) fields))
    ((FieldName.single "user_id").optional none (nullable text) fields)

def ofValue (v : Value) : Checked PrepareRequest := record .request v >>= ofFields

end PrepareRequest

structure EvaluateRequest where
  document : Document
  inputs : Inputs
  requireValid : Bool

namespace EvaluateRequest

def ofFields (fields : List (Scalar × Value)) : Checked EvaluateRequest :=
  app (app (app (.ok mk)
    ((FieldName.single "rule").required (Document.ofValue .request) fields))
    ((FieldName.single "inputs").optional [] Checked.inputs fields))
    ((FieldName.single "require_valid").optional false bool fields)

def ofValue (v : Value) : Checked EvaluateRequest := record .request v >>= ofFields

end EvaluateRequest

structure StoredRequest where
  inputs : Inputs
  useSnapshot : Bool

namespace StoredRequest

def ofFields (fields : List (Scalar × Value)) : Checked StoredRequest :=
  app (app (.ok mk)
    ((FieldName.single "inputs").optional [] Checked.inputs fields))
    ((FieldName.single "use_system_metrics").optional false bool fields)

def ofValue (v : Value) : Checked StoredRequest := record .request v >>= ofFields

end StoredRequest

end BlockRules
