import BlockRules.Service.Basic
import BlockRules.Service.Origin
import BlockRules.Text.UpperCase

set_option autoImplicit false

/-!
# Requests and responses

A request becomes a response: its page is looked up and answered, and a request from another site is told what
its origin may do. A response to the method `HEAD` holds nothing.
-/
namespace BlockRules

structure Request where
  method : String
  target : String
  headers : Headers
  body : List Char

structure Response where
  status : Nat
  content : Content
  headers : Headers

namespace Response

def ofAnswer : Except Refusal Answer → Response
  | .ok a => ⟨200, .data a.toValue.plain, []⟩
  | .error e => ⟨e.status, e.content, []⟩

end Response

namespace Service

def allowedOrigins (s : Service) : AllowedOrigins := .ofText s.settings.corsOrigins

def answerBeforehand (s : Service) (origin method : String) (privateNetwork : Bool) : Response :=
  let headers := s.allowedOrigins.headersFor origin ++ AllowedOrigins.headersBeforehand
  match s.allowedOrigins.refused origin method privateNetwork with
  | [] => ⟨200, .text "OK", headers⟩
  | parts => ⟨400, .text ("Disallowed CORS " ++ ", ".intercalate parts), headers⟩

def answerPage (s : Service) (device : Device) (method : String) (r : Request) :
    Service × Except Refusal Answer :=
  match Page.find method (Target.path r.target) with
  | .ok page => s.answer device page r.body
  | .error e => (s, .error (.page e))

/-- What an answer says to the origin of its request. A failure of the service says nothing. -/
def headersFor (s : Service) (origin : Option String) (result : Except Refusal Answer) : Headers :=
  match origin, result with
  | none, _ => []
  | some _, .error .failed => []
  | some origin, _ => s.allowedOrigins.headersFor origin

def respond (s : Service) (device : Device) (r : Request) : Service × Response :=
  let method := Text.upper r.method
  match r.headers.find? "origin", r.headers.find? "access-control-request-method", method with
  | some origin, some wanted, "OPTIONS" =>
    (s, s.answerBeforehand origin wanted (r.headers.find? "access-control-request-private-network").isSome)
  | origin, _, _ =>
    let (s, result) := s.answerPage device method r
    let response := Response.ofAnswer result
    (s, { response with
      content := if method = "HEAD" then .nothing else response.content
      headers := s.headersFor origin result })

end Service

end BlockRules
