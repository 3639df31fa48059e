import BlockRules.Proofs.Monitor.Step
import BlockRules.Proofs.Walk.Failure

set_option autoImplicit false

/-!
# What a monitor remembers

Whatever happens to a monitor, by itself, in its runs and between their ticks, what it remembers is what comes of
the evaluations that were made: their number, the last of them with its snapshot, and all of them in order with
the handler. The rest of what happens moves the flag at most.
-/
namespace BlockRules

variable {ε : Type}

/-- The evaluation that a run makes on its turn, if it still goes on and there is one. -/
def Run.evaluation? (r : Run ε) (m : Monitor) (t : Turn ε) : Option (Inputs × Evaluation) :=
  match r.status with
  | .waiting => if m.running then t.evaluation? m.rule else none
  | _ => none

theorem Run.evaluation?_of_past {r : Run ε} (h : r.status ≠ .waiting) (m : Monitor) (t : Turn ε) :
    r.evaluation? m t = none := by
  rw [evaluation?]
  split
  · exact absurd ‹_› h
  · rfl

theorem Run.evaluation?_of_stopped {m : Monitor} (hflag : m.running = false) (r : Run ε) (t : Turn ε) :
    r.evaluation? m t = none := by
  rw [evaluation?, hflag]
  split <;> rfl

theorem Run.evaluation?_of_goesOn {r : Run ε} {m : Monitor} (h : r.status = .waiting) (hflag : m.running = true)
    (t : Turn ε) : r.evaluation? m t = t.evaluation? m.rule := by
  rw [evaluation?, h]
  exact if_pos hflag

namespace Monitor

/-- A monitor after an evaluation with its snapshot, if there is one, whatever the handler does with it. -/
def recordOf (m : Monitor) : Option (Inputs × Evaluation) → Monitor
  | some (snapshot, e) => (m.record snapshot e).callHandler e
  | none => m

theorem recordOf_withFlag (m : Monitor) (flag : Bool) (made : Option (Inputs × Evaluation)) :
    (m.withFlag flag).recordOf made = (m.recordOf made).withFlag flag := by
  cases made <;> rfl

variable {m m' : Monitor} {t : Turn ε} {r r' : Run ε}

theorem exists_flag_of_tick {result : Except (TickError ε) Evaluation} (htick : m.tick t = (m', result)) :
    ∃ flag, m' = (m.recordOf (t.evaluation? m.rule)).withFlag flag := by
  cases h : t.evaluation? m.rule with
  | none =>
    obtain ⟨e, -, heq⟩ := tick_of_none h
    cases htick.symm.trans heq
    exact ⟨m.running, rfl⟩
  | some p =>
    cases htick.symm.trans (tick_of_some h)
    exact ⟨_, heed_eq _ _⟩

theorem Proceeds.exists_flag (h : m.Proceeds t r m' r') :
    ∃ flag, m' = (m.recordOf (r.evaluation? m t)).withFlag flag := by
  cases h with
  | past h =>
    rw [Run.evaluation?_of_past h m t]
    exact ⟨m.running, rfl⟩
  | stopped h hflag =>
    rw [Run.evaluation?_of_stopped hflag r t]
    exact ⟨false, rfl⟩
  | failed h hflag _ e htick | ticked h hflag _ e htick =>
    rw [Run.evaluation?_of_goesOn h hflag t]
    exact exists_flag_of_tick htick
  | full h hflag ticked e htick =>
    obtain ⟨flag, hmade⟩ := exists_flag_of_tick htick
    rw [Run.evaluation?_of_goesOn h hflag t, hmade]
    exact ⟨false, rfl⟩

end Monitor

namespace Session

/-- The evaluation that a session makes at an event, with its snapshot, if it makes one. -/
def evaluation? (s : Session ε) : Event ε → Option (Inputs × Evaluation)
  | .tick t | .start _ t => t.evaluation? s.monitor.rule
  | .resume place t => s.runs[place]?.bind fun r => r.evaluation? s.monitor t
  | .stop => none

theorem evaluation?_begin (s : Session ε) (limit : Option Int) (t : Turn ε) :
    (s.begin limit).evaluation? (.resume s.runs.length t) = t.evaluation? s.monitor.rule := by
  rw [evaluation?, begin_getElem?]
  exact Run.evaluation?_of_goesOn (r := .new limit) rfl (s.monitor.withFlag_running true) t

theorem exists_flag_of_resume (s : Session ε) (place : Nat) (t : Turn ε) :
    ∃ flag, (s.resume place t).monitor = (s.monitor.recordOf (s.evaluation? (.resume place t))).withFlag flag := by
  rw [evaluation?]
  cases h : s.runs[place]? with
  | none =>
    rw [resume_of_none h]
    exact ⟨s.monitor.running, rfl⟩
  | some r =>
    rw [resume_of_some h]
    exact (s.monitor.proceeds_proceed r t).exists_flag

theorem exists_flag_of_step (s : Session ε) (event : Event ε) :
    ∃ flag, (s.step event).monitor = (s.monitor.recordOf (s.evaluation? event)).withFlag flag := by
  cases event with
  | tick t => exact Monitor.exists_flag_of_tick rfl
  | start limit t =>
    obtain ⟨flag, hmade⟩ := (s.begin limit).exists_flag_of_resume s.runs.length t
    rw [step, evaluation?, hmade, evaluation?_begin, begin, Monitor.recordOf_withFlag, Monitor.withFlag_withFlag]
    exact ⟨flag, rfl⟩
  | resume place t => exact s.exists_flag_of_resume place t
  | stop => exact ⟨false, rfl⟩

theorem evaluate_of_evaluation? {s : Session ε} {event : Event ε} {p : Inputs × Evaluation}
    (h : s.evaluation? event = some p) : s.monitor.rule.evaluate p.1 = .ok p.2 := by
  have hturn : ∃ t : Turn ε, t.evaluation? s.monitor.rule = some p := by
    cases event with
    | tick t | start _ t => exact ⟨t, h⟩
    | resume place t =>
      obtain ⟨r, -, hr⟩ := Option.bind_eq_some_iff.1 h
      refine ⟨t, ?_⟩
      by_cases hwaiting : r.status = .waiting
      · cases hflag : s.monitor.running with
        | false => cases (Run.evaluation?_of_stopped hflag r t).symm.trans hr
        | true => rwa [Run.evaluation?_of_goesOn hwaiting hflag] at hr
      · cases (Run.evaluation?_of_past hwaiting _ t).symm.trans hr
    | stop => cases h
  obtain ⟨t, ht⟩ := hturn
  exact (Turn.evaluation?_eq_some_iff.1 ht).2

/-- The evaluations that a session makes at some events, in order, each with its snapshot. -/
def evaluations (s : Session ε) : List (Event ε) → List (Inputs × Evaluation)
  | [] => []
  | event :: rest => (s.evaluation? event).toList ++ (s.step event).evaluations rest

end Session

/-- What a monitor remembers is what comes of some evaluations of a rule, each with its snapshot. -/
structure Monitor.Records (m : Monitor) (rule : Graph) (hasHandler : Bool) (made : List (Inputs × Evaluation)) :
    Prop where
  rule_eq : m.rule = rule
  hasHandler_eq : m.hasHandler = hasHandler
  ticks_eq : m.ticks = made.length
  lastSnapshot_eq : m.lastSnapshot = (made.getLast?.map Prod.fst).getD []
  lastEvaluation_eq : m.lastEvaluation = made.getLast?.map Prod.snd
  handled_eq : m.handled = if hasHandler then made.map Prod.snd else []
  evaluate_eq : ∀ p ∈ made, rule.evaluate p.1 = .ok p.2

namespace Monitor.Records

variable {m : Monitor} {rule : Graph} {hasHandler : Bool} {made : List (Inputs × Evaluation)}

theorem new (rule : Graph) (interval : Quantity) (hasHandler : Bool) :
    (Monitor.new rule interval hasHandler).Records rule hasHandler [] where
  rule_eq := rfl
  hasHandler_eq := rfl
  ticks_eq := rfl
  lastSnapshot_eq := rfl
  lastEvaluation_eq := rfl
  handled_eq := (ite_self []).symm
  evaluate_eq := nofun

theorem withFlag (h : m.Records rule hasHandler made) (flag : Bool) :
    (m.withFlag flag).Records rule hasHandler made := { h with }

theorem record (h : m.Records rule hasHandler made) {snapshot : Inputs} {e : Evaluation}
    (he : rule.evaluate snapshot = .ok e) :
    ((m.record snapshot e).callHandler e).Records rule hasHandler (made ++ [(snapshot, e)]) where
  rule_eq := h.rule_eq
  hasHandler_eq := h.hasHandler_eq
  ticks_eq := by rw [List.length_append, ← h.ticks_eq]; rfl
  lastSnapshot_eq := by rw [List.getLast?_concat]; rfl
  lastEvaluation_eq := by rw [List.getLast?_concat]; rfl
  handled_eq := by
    rw [callHandler, Monitor.record, h.hasHandler_eq, h.handled_eq]
    cases hasHandler <;> simp
  evaluate_eq := by
    intro p hp
    obtain hp | hp := List.mem_append.1 hp
    · exact h.evaluate_eq p hp
    · rw [List.mem_singleton.1 hp]
      exact he

theorem step {s : Session ε} (h : s.monitor.Records rule hasHandler made) (event : Session.Event ε) :
    (s.step event).monitor.Records rule hasHandler (made ++ (s.evaluation? event).toList) := by
  obtain ⟨flag, hstep⟩ := s.exists_flag_of_step event
  rw [hstep]
  cases hmade : s.evaluation? event with
  | none =>
    rw [Option.toList_none, List.append_nil]
    exact h.withFlag flag
  | some p =>
    have hevaluated := Session.evaluate_of_evaluation? hmade
    rw [h.rule_eq] at hevaluated
    exact (h.record hevaluated).withFlag flag

theorem after {s : Session ε} (h : s.monitor.Records rule hasHandler made) (events : List (Session.Event ε)) :
    (s.after events).monitor.Records rule hasHandler (made ++ s.evaluations events) := by
  induction events generalizing s made with
  | nil =>
    rw [Session.evaluations, List.append_nil]
    exact h
  | cons event rest ih =>
    rw [Session.evaluations, ← List.append_assoc]
    exact ih (h.step event)

end Monitor.Records

namespace Session

/-- Whatever happens to a new monitor, and wherever sampling, evaluations and the handler fail, it has counted the
evaluations that were made, it holds the last of them with its snapshot, and it has given each to its handler once
and in order. A tick that fails before that changes nothing, and an event without an evaluation no more than the
flag. -/
theorem after_records (rule : Graph) (interval : Quantity) (hasHandler : Bool) (events : List (Event ε)) :
    let s := (new (.new rule interval hasHandler)).after events
    let made := (new (.new rule interval hasHandler)).evaluations events
    s.monitor.ticks = made.length ∧
    (s.monitor.ticks = 0 → s.monitor.lastSnapshot = [] ∧ s.monitor.lastEvaluation = none) ∧
    (s.monitor.ticks ≠ 0 → ∃ e, made.getLast? = some (s.monitor.lastSnapshot, e) ∧
      s.monitor.lastEvaluation = some e ∧ rule.evaluate s.monitor.lastSnapshot = .ok e) ∧
    s.monitor.handled = (if hasHandler then made.map Prod.snd else []) ∧
    (∀ t : Turn ε, t.evaluation? rule = none →
      ∃ e : TickError ε, e.IsEarly ∧ s.monitor.tick t = (s.monitor, .error e)) ∧
    ∀ event, s.evaluation? event = none → ∃ flag, (s.step event).monitor = s.monitor.withFlag flag := by
  intro s made
  have hnew : (new (.new rule interval hasHandler) : Session ε).monitor.Records rule hasHandler [] :=
    .new rule interval hasHandler
  have h : s.monitor.Records rule hasHandler made := hnew.after events
  refine ⟨h.ticks_eq, fun hnone => ?_, fun hsome => ?_, h.handled_eq, fun t ht => ?_, fun event hevent => ?_⟩
  · have hmade : made = [] := List.length_eq_zero_iff.1 (h.ticks_eq.symm.trans hnone)
    rw [h.lastSnapshot_eq, h.lastEvaluation_eq, hmade]
    exact ⟨rfl, rfl⟩
  · have hmade : made ≠ [] := fun hnil => hsome (h.ticks_eq.trans (congrArg List.length hnil))
    have hlast := List.getLast?_eq_getLast_of_ne_nil hmade
    rw [h.lastSnapshot_eq, h.lastEvaluation_eq, hlast]
    exact ⟨_, rfl, rfl, h.evaluate_eq _ (List.getLast_mem hmade)⟩
  · rw [← h.rule_eq] at ht
    exact Monitor.tick_of_none ht
  · have hstep := s.exists_flag_of_step event
    rwa [hevent] at hstep

def aboveOneRule : Graph := ⟨[⟨"above", default, .condition Graph.aboveOne⟩], []⟩

def turnAt (x : Value) : Turn Unit := ⟨.ok [("x", x)], fun _ => .nothing⟩

def lostTurn : Turn Unit := ⟨.error (), fun _ => .nothing⟩

/-- A tick, a run that fails on its second snapshot, and a tick without a snapshot while that run waits. -/
def brokenRun : List (Event Unit) :=
  [.tick (turnAt (.int 2)), .start (some 3) (turnAt (.int 0)), .tick lostTurn,
    .resume 0 (turnAt (.int (Number.tenPow 309))), .resume 0 (turnAt (.int 2))]

theorem brokenRun_records :
    let s := (new (.new aboveOneRule (.whole 1) true)).after brokenRun
    s.monitor.ticks = 2 ∧
    (∃ e, s.monitor.lastEvaluation = some e ∧ aboveOneRule.evaluate s.monitor.lastSnapshot = .ok e) ∧
    s.monitor.handled = [.ofSteps [⟨"above", .condition true, "x > 1", 0⟩],
      .ofSteps [⟨"above", .condition false, "x > 1", 0⟩]] ∧
    ∃ e : TickError Unit, s.monitor.tick lostTurn = (s.monitor, .error e) := by
  intro s
  have hticks : s.monitor.ticks = 2 := by decide +kernel
  obtain ⟨-, -, hlast, -, hlost, -⟩ := after_records aboveOneRule (.whole 1) true brokenRun
  obtain ⟨e, -, hevaluation⟩ := hlast (by rw [hticks]; decide)
  obtain ⟨e', -, htick⟩ := hlost lostTurn rfl
  exact ⟨hticks, ⟨e, hevaluation⟩, by decide +kernel, e', htick⟩

end Session

end BlockRules
