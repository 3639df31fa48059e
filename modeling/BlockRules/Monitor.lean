import BlockRules.Evaluation.Walk
import BlockRules.Metrics.Quantity

set_option autoImplicit false

/-!
# Monitors

A monitor evaluates one rule again and again, each time on a fresh snapshot. It remembers the last snapshot that
was evaluated and what came of it, and it gives every evaluation to its handler if it has one. A run goes on
until a limit is reached, the monitor is stopped, or a tick fails. Between two of its ticks it waits, and the
monitor can tick, be stopped or start another run. All runs share the one flag by which they are stopped.
-/
namespace BlockRules

structure Monitor where
  rule : Graph
  /-- Seconds between two evaluations of a run. -/
  interval : Quantity
  hasHandler : Bool
  ticks : Nat
  lastSnapshot : Inputs
  lastEvaluation : Option Evaluation
  /-- The evaluations that the handler was called with, in order. -/
  handled : List Evaluation
  running : Bool

variable {ε : Type}

/-- What a handler does with an evaluation. It can stop the monitor, and it can fail. -/
structure Reaction (ε : Type) where
  stops : Bool
  failure : Option ε

/-- What the surroundings of a monitor hold for a tick: the snapshot that is taken, if sampling does not fail,
and what the handler will do. -/
structure Turn (ε : Type) where
  sample : Except ε Inputs
  reaction : Evaluation → Reaction ε

inductive TickError (ε : Type) where
  | sampling (e : ε)
  | comparison (e : ComparisonError)
  | handling (e : ε)
  deriving DecidableEq

namespace Reaction

def nothing : Reaction ε := ⟨false, none⟩

def outcome (r : Reaction ε) (e : Evaluation) : Except (TickError ε) Evaluation :=
  match r.failure with
  | some failure => .error (.handling failure)
  | none => .ok e

end Reaction

inductive RunStatus (ε : Type) where
  | waiting
  | ended
  | failed (e : TickError ε)
  deriving DecidableEq

structure Run (ε : Type) where
  /-- The number of evaluations after which the run ends, if there is one. -/
  limit : Option Int
  count : Nat
  status : RunStatus ε

namespace Run

def new (limit : Option Int) : Run ε := ⟨limit, 0, .waiting⟩

def isFull (r : Run ε) : Bool := r.limit.any fun n => n ≤ (r.count : Int)

end Run

namespace Monitor

def new (rule : Graph) (interval : Quantity) (hasHandler : Bool) : Monitor where
  rule := rule
  interval := interval
  hasHandler := hasHandler
  ticks := 0
  lastSnapshot := []
  lastEvaluation := none
  handled := []
  running := false

def record (m : Monitor) (snapshot : Inputs) (e : Evaluation) : Monitor :=
  { m with
    ticks := m.ticks + 1
    lastSnapshot := snapshot
    lastEvaluation := some e }

def callHandler (m : Monitor) (e : Evaluation) : Monitor :=
  { m with handled := if m.hasHandler then m.handled ++ [e] else m.handled }

def withFlag (m : Monitor) (flag : Bool) : Monitor := { m with running := flag }

def stop (m : Monitor) : Monitor := m.withFlag false

def reaction (m : Monitor) (t : Turn ε) (e : Evaluation) : Reaction ε :=
  if m.hasHandler then t.reaction e else .nothing

def heed (m : Monitor) (r : Reaction ε) : Monitor := if r.stops then m.stop else m

/-- One evaluation. It is recorded before the handler is called, and a handler that fails takes nothing back. -/
def tick (m : Monitor) (t : Turn ε) : Monitor × Except (TickError ε) Evaluation :=
  match t.sample with
  | .error e => (m, .error (.sampling e))
  | .ok snapshot =>
    match m.rule.evaluate snapshot with
    | .error e => (m, .error (.comparison e))
    | .ok e => (((m.record snapshot e).callHandler e).heed (m.reaction t e), (m.reaction t e).outcome e)

/-- A run goes on from where it waits. It looks at the flag first, and lowers it when it ends; a tick that fails
leaves the flag as it is. -/
def proceed (m : Monitor) (r : Run ε) (t : Turn ε) : Monitor × Run ε :=
  match r.status with
  | .waiting =>
    if m.running then
      match m.tick t with
      | (m, .error e) => (m, { r with status := .failed e })
      | (m, .ok _) =>
        let r := { r with count := r.count + 1 }
        if r.isFull then (m.stop, { r with status := .ended }) else (m, r)
    else (m.stop, { r with status := .ended })
  | _ => (m, r)

end Monitor

/-- A monitor with all its runs, in the order in which they were started. -/
structure Session (ε : Type) where
  monitor : Monitor
  runs : List (Run ε)

namespace Session

inductive Event (ε : Type) where
  | tick (t : Turn ε)
  | start (limit : Option Int) (t : Turn ε)
  /-- The run at a place in the order of the starts has waited for long enough. -/
  | resume (place : Nat) (t : Turn ε)
  | stop

def new (m : Monitor) : Session ε := ⟨m, []⟩

def begin (s : Session ε) (limit : Option Int) : Session ε :=
  ⟨s.monitor.withFlag true, s.runs ++ [Run.new limit]⟩

def resume (s : Session ε) (place : Nat) (t : Turn ε) : Session ε :=
  match s.runs[place]? with
  | none => s
  | some r =>
    let (m, r) := s.monitor.proceed r t
    ⟨m, s.runs.set place r⟩

def step (s : Session ε) : Event ε → Session ε
  | .tick t => { s with monitor := (s.monitor.tick t).1 }
  | .start limit t => (s.begin limit).resume s.runs.length t
  | .resume place t => s.resume place t
  | .stop => { s with monitor := s.monitor.stop }

def after (s : Session ε) (events : List (Event ε)) : Session ε := events.foldl step s

/-- A run that nothing comes between, on the turns that it is given. -/
def run (s : Session ε) (limit : Option Int) (first : Turn ε) (rest : List (Turn ε)) : Session ε :=
  s.after (.start limit first :: rest.map (.resume s.runs.length))

end Session

end BlockRules
