import BlockRules.Document.Obstacle
import BlockRules.Document.Saving
import BlockRules.Evaluation.TestRun
import BlockRules.Service.Body
import BlockRules.Service.Page
import BlockRules.Wording.Preview

set_option autoImplicit false

namespace BlockRules
open Value (named)

structure RuleInfo where
  id : String
  name : String
  isValid : Bool
  conditions : Nat
  actions : Nat
  naturalLanguage : String

structure RuleDetail where
  id : String
  document : Document
  preview : Preview

structure EvaluationAnswer where
  evaluation : Evaluation
  inputs : Inputs
  alarm : Option AlarmSettings

inductive Answer where
  | home (name : String)
  | healthy
  | rules (infos : List RuleInfo)
  | rule (detail : RuleDetail)
  | validation (v : Validation)
  | views (p : Preview)
  | document (d : Document)
  | evaluation (e : EvaluationAnswer)
  | metrics (inputs : Inputs)

inductive Refusal where
  | page (e : PageError)
  | unknownRule (id : String)
  | invalidBody (problems : List Problem)
  | unreadableBody
  | unprepared (e : SaveError)
  | untested (v : Verdict)
  /-- Something went wrong that no request is to blame for. -/
  | failed

def texts (xs : List String) : Value := .list (xs.map .text)

namespace RuleInfo

def toValue (r : RuleInfo) : Value :=
  named [("rule_id", .text r.id), ("name", .text r.name), ("is_valid", .bool r.isValid),
    ("conditions", .int r.conditions), ("actions", .int r.actions), ("natural_language", .text r.naturalLanguage)]

end RuleInfo

namespace Validation

def toValue (v : Validation) : Value :=
  named [("is_valid", .bool v.isValid), ("message", .text v.verdict.message),
    ("warnings", texts (v.warnings.map Warning.message))]

end Validation

namespace Preview

def views (p : Preview) : List (String × Value) :=
  [("natural_language", .text p.naturalLanguage), ("pseudocode", .text p.pseudocode),
    ("input_variables", texts p.inputNames)]

end Preview

namespace RuleDetail

def toValue (r : RuleDetail) : Value :=
  named ([("rule_id", .text r.id), ("rule", r.document.toValue)] ++ r.preview.views ++
    [("validation", r.preview.validation.toValue)])

end RuleDetail

namespace Step

def toValue (s : Step) : Value :=
  named [("node_id", .text s.node), ("kind", .text s.visit.kind), ("description", .text s.description),
    ("outcome", .text s.visit.outcome), ("depth", .int s.depth)]

end Step

namespace EvaluationAnswer

def toValue (a : EvaluationAnswer) : Value :=
  named [("matched", .bool a.evaluation.matched), ("actions", texts a.evaluation.actions),
    ("evaluation_path", texts a.evaluation.path), ("steps", .list (a.evaluation.steps.map Step.toValue)),
    ("inputs", named a.inputs), ("alarm_config", (a.alarm.map AlarmSettings.toValue).getD .null)]

end EvaluationAnswer

namespace Answer

def version : String := "0.1.0"

def pages : List (String × Value) :=
  [("rules", .text "/rules - Stored rules, validation and rendering"),
    ("evaluate", .text "/evaluate - Rule evaluation with execution trace"),
    ("metrics", .text "/metrics/snapshot - Live system metrics")]

def toValue : Answer → Value
  | home name => named [("name", .text name), ("version", .text version), ("endpoints", named pages)]
  | healthy => named [("status", .text "healthy")]
  | rules infos => named [("rules", .list (infos.map RuleInfo.toValue)), ("total", .int infos.length)]
  | rule detail => detail.toValue
  | validation v => v.toValue
  | views p => named p.views
  | document d => d.toValue
  | evaluation e => e.toValue
  | metrics inputs => named [("metrics", named inputs)]

end Answer

namespace Place

def toValue : Place → Value
  | field name => .text name
  | index n => .int n

end Place

namespace Problem

def toValue (p : Problem) : Value :=
  named [("type", .text p.kind.code), ("loc", .list (p.location.map Place.toValue))]

end Problem

inductive Content where
  | nothing
  | text (s : String)
  | data (v : Value)

namespace Refusal

def status : Refusal → Nat
  | page .notFound => 404
  | page .methodNotAllowed => 405
  | page .elsewhere => 307
  | unknownRule _ => 404
  | invalidBody _ => 422
  | unreadableBody => 400
  | unprepared _ => 422
  | untested _ => 422
  | failed => 500

def detail (reason : String) : Content := .data (named [("detail", .text reason)])

def content : Refusal → Content
  | page .notFound => detail "Not Found"
  | page .methodNotAllowed => detail "Method Not Allowed"
  | page .elsewhere => .nothing
  | unknownRule id => detail ("Rule not found: " ++ id)
  | invalidBody problems => .data (named [("detail", .list (problems.map Problem.toValue))])
  | unreadableBody => detail "There was an error parsing the body"
  | unprepared e => detail e.message
  | untested v => detail v.message
  | failed => .text "Internal Server Error"

end Refusal

end BlockRules
