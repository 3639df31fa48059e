import BlockRules.Library.Basic
import BlockRules.Library.Bundled
import BlockRules.Metrics.Snapshot
import BlockRules.Service.Answer
import BlockRules.Settings.LogLevel

set_option autoImplicit false

/-!
# The service

The service keeps a library of rules, which it reads when a rule is first asked for, and answers the requests
for its pages. A library that fails to load stays as it is at that point, and later requests see no failure. A service
is launched only if its rules can be read and its log level is one.
-/
namespace BlockRules

structure Device where
  readings : Readings
  now : Moment

structure Service where
  settings : Settings
  files : Files
  library : Option Library
  /-- For how many seconds the use of the processor was measured, each time. -/
  measured : List Binary64

namespace RuleInfo

def ofDocument (d : Document) : RuleInfo :=
  let preview := d.preview
  ⟨d.id.getD "", d.name, preview.validation.isValid, d.conditions.length, d.actions.length,
    preview.naturalLanguage⟩

end RuleInfo

namespace EvaluationAnswer

/-- The answer to an evaluation of a document, with its alarm or else the usual one if an action fired. -/
def of (d : Document) (inputs : Inputs) (e : Evaluation) : EvaluationAnswer :=
  ⟨e, inputs, if e.matched then some (d.alarm.getD .default) else none⟩

end EvaluationAnswer

namespace Refusal

/-- A surrogate on its own counts as a failure: an answer that repeats it cannot be sent. -/
def ofBody : BodyError → Refusal
  | .unreadable => unreadableBody
  | .loneSurrogate => failed
  | .invalid problems => invalidBody problems

def ofTest : TestError → Refusal
  | .invalid v => untested v
  | .comparison _ => failed

end Refusal

namespace Document

/-- The document is evaluated with some inputs, after a test of its validity if that is asked for. The answer holds
the inputs, which have to be plain data. -/
def answer (d : Document) (inputs : Inputs) (requireValid : Bool) : Except Refusal EvaluationAnswer :=
  let result := if requireValid then d.runTest inputs else (d.evaluate inputs).mapError .comparison
  (result.mapError .ofTest).bind fun e =>
    if inputs.all fun x => (x.2.obstacle? Obstacle.depthLimit).isNone then .ok (.of d inputs e)
    else .error .failed

end Document

inductive StartError where
  | log (e : LogError)
  | load (e : LoadError)

namespace Service

def start (settings : Settings) (files : Files) : Service := ⟨settings, files, none, []⟩

/-- Where the rules are: in the directory that comes with the library, unless the settings name another. -/
def rulesPlace (s : Service) : Files × Option Path :=
  match s.settings.rulesDirectory with
  | none => (Bundled.files, some Bundled.directory)
  | some directory => (s.files, if directory = "" then none else some (.ofText directory))

def readLibrary (s : Service) : Library × Except LoadError (List Document) :=
  (Library.empty s.rulesPlace.2).loadDirectory s.rulesPlace.1 none

/-- The library, which is read if it is not there yet. A directory that is missing makes it empty. -/
def rules (s : Service) : Service × Except LoadError Library :=
  match s.library with
  | some l => (s, .ok l)
  | none =>
    let (l, result) := s.readLibrary
    let s := { s with library := some l }
    match result with
    | .error (.directoryMissing _) => (s, .ok l)
    | .error e => (s, .error e)
    | .ok _ => (s, .ok l)

def launch (settings : Settings) (files : Files) : Except StartError Service :=
  match (LogState.initial.configure settings none).2 with
  | some e => .error (.log e)
  | none => match (start settings files).rules with
    | (s, .ok _) => .ok s
    | (_, .error e) => .error (.load e)

def withRules {α : Type} (s : Service) (f : Library → Except Refusal α) : Service × Except Refusal α :=
  let (s, result) := s.rules
  (s, match result with
    | .ok l => f l
    | .error _ => .error .failed)

def lookUp (l : Library) (id : String) : Except Refusal Document :=
  match l.get? id with
  | some d => .ok d
  | none => .error (.unknownRule id)

def list (l : Library) : Except Refusal (List RuleInfo) :=
  if l.documents.all fun d => d.isShowable then .ok (l.documents.map .ofDocument) else .error .failed

def detail (l : Library) (id : String) : Except Refusal RuleDetail :=
  (lookUp l id).bind fun d =>
    if d.isShowable && d.partObstacle?.isNone then .ok ⟨id, d, d.preview⟩ else .error .failed

def snapshot (s : Service) (device : Device) : Service × Except Refusal Inputs :=
  let measured := if device.readings.reachesProcessor then [s.settings.processorInterval] else []
  ({ s with measured := s.measured ++ measured },
    (device.readings.snapshot device.now).mapError fun _ => .failed)

def test (s : Service) (device : Device) (r : StoredRequest) (d : Document) :
    Service × Except Refusal EvaluationAnswer :=
  let (s, inputs) := if r.useSnapshot then s.snapshot device else (s, .ok r.inputs)
  (s, inputs.bind fun inputs => d.answer inputs true)

def evaluateStored (s : Service) (device : Device) (id : String) (r : StoredRequest) :
    Service × Except Refusal EvaluationAnswer :=
  match s.withRules fun l => lookUp l id with
  | (s, .ok d) => s.test device r d
  | (s, .error e) => (s, .error e)

def inUtc (now : Moment) : Moment := { now with offset := some 0 }

def prepare (device : Device) (r : PrepareRequest) : Except Refusal Document :=
  ((r.document.prepare r.user (inUtc device.now)).mapError .unprepared).bind fun d =>
    if d.partObstacle?.isNone then .ok d else .error .failed

def read {α : Type} (content : Value → Checked α) (body : List Char) : Except Refusal α :=
  (Body.read content body).mapError .ofBody

def answer (s : Service) (device : Device) (page : Page) (body : List Char) : Service × Except Refusal Answer :=
  match page with
  | .home => (s, .ok (.home s.settings.appName))
  | .health => (s, .ok .healthy)
  | .rules => s.withRules fun l => (list l).map .rules
  | .rule id => s.withRules fun l => (detail l id).map .rule
  | .validate => (s, (read (Document.ofValue .request) body).map fun d => .validation d.validate)
  | .render => (s, (read (Document.ofValue .request) body).map fun d => .views d.preview)
  | .prepare => (s, (read PrepareRequest.ofValue body).bind fun r => (prepare device r).map .document)
  | .evaluate => (s, (read EvaluateRequest.ofValue body).bind fun r =>
      (r.document.answer r.inputs r.requireValid).map .evaluation)
  | .evaluateStored id => match read StoredRequest.ofValue body with
    | .error e => (s, .error e)
    | .ok r =>
      let (s, result) := s.evaluateStored device id r
      (s, result.map .evaluation)
  | .metrics =>
    let (s, result) := s.snapshot device
    (s, result.map .metrics)

end Service

end BlockRules
