import BlockRules.Proofs.Monitor.Record

set_option autoImplicit false

/-!
# Runs that nothing comes between

A run that nothing comes between takes its turns one after the other, at the place where it was added. Once it is
over it takes no more. Its limit is looked at after a tick and never before the first: a run has at most as many ticks
as its limit says, but a run with the limit zero has one.
-/
namespace BlockRules

variable {ε : Type}

theorem RunStatus.ended_ne_waiting : (ended : RunStatus ε) ≠ waiting := by
  simp

theorem RunStatus.failed_ne_waiting (e : TickError ε) : failed e ≠ waiting := by
  simp

namespace Session
open RunStatus (ended_ne_waiting failed_ne_waiting)

/-- The turns of a run at a place, if nothing comes between them. -/
def turnsAt (place : Nat) (turns : List (Turn ε)) : List (Event ε) := turns.map (.resume place)

def runEvents (s : Session ε) (limit : Option Int) (first : Turn ε) (rest : List (Turn ε)) : List (Event ε) :=
  .start limit first :: turnsAt s.runs.length rest

theorem run_eq (s : Session ε) (limit : Option Int) (first : Turn ε) (rest : List (Turn ε)) :
    s.run limit first rest = (s.begin limit).after (turnsAt s.runs.length (first :: rest)) := rfl

theorem evaluations_runEvents (s : Session ε) (limit : Option Int) (first : Turn ε) (rest : List (Turn ε)) :
    s.evaluations (s.runEvents limit first rest) =
      (s.begin limit).evaluations (turnsAt s.runs.length (first :: rest)) := by
  rw [runEvents, turnsAt, turnsAt, List.map_cons, evaluations, evaluations, evaluation?_begin]
  rfl

variable {s : Session ε} {place : Nat} {r : Run ε}

theorem evaluation?_resume (h : s.runs[place]? = some r) (t : Turn ε) :
    s.evaluation? (.resume place t) = r.evaluation? s.monitor t := by
  rw [evaluation?, h, Option.bind_some]

theorem exists_resume (h : s.runs[place]? = some r) (t : Turn ε) :
    ∃ m' r', s.monitor.Proceeds t r m' r' ∧ s.resume place t = ⟨m', s.runs.set place r'⟩ ∧
      (s.resume place t).runs[place]? = some r' := by
  refine ⟨_, _, s.monitor.proceeds_proceed r t, resume_of_some h, ?_⟩
  rw [resume_of_some h, List.getElem?_set_self (List.getElem?_eq_some_iff.1 h).1]

theorem resume_of_past (h : s.runs[place]? = some r) (hpast : r.status ≠ .waiting) (t : Turn ε) :
    s.resume place t = s := by
  obtain ⟨m', r', hproceeds, heq, -⟩ := exists_resume h t
  cases hproceeds with
  | past =>
    obtain ⟨hplace, rfl⟩ := List.getElem?_eq_some_iff.1 h
    rw [heq, List.set_getElem_self]
  | stopped hwaiting | failed hwaiting | ticked hwaiting | full hwaiting => exact absurd hwaiting hpast

theorem after_of_past (h : s.runs[place]? = some r) (hpast : r.status ≠ .waiting) (turns : List (Turn ε)) :
    s.after (turnsAt place turns) = s := by
  induction turns with
  | nil => rfl
  | cons t turns ih =>
    change (s.resume place t).after (turnsAt place turns) = s
    rw [resume_of_past h hpast, ih]

theorem evaluations_of_past (h : s.runs[place]? = some r) (hpast : r.status ≠ .waiting) (turns : List (Turn ε)) :
    s.evaluations (turnsAt place turns) = [] := by
  induction turns with
  | nil => rfl
  | cons t turns ih =>
    rw [turnsAt, List.map_cons, evaluations, evaluation?_resume h, Run.evaluation?_of_past hpast, step,
      resume_of_past h hpast]
    exact ih

theorem over_of_lowered (h : s.runs[place]? = some r) (hwaiting : r.status = .waiting)
    (hflag : s.monitor.running = false) (t : Turn ε) (turns : List (Turn ε)) :
    s.evaluations (turnsAt place (t :: turns)) = [] ∧
      s.after (turnsAt place (t :: turns)) = ⟨s.monitor.stop, s.runs.set place { r with status := .ended }⟩ := by
  obtain ⟨m', r', hproceeds, heq, hnext⟩ := exists_resume h t
  cases hproceeds with
  | past hpast => exact absurd hwaiting hpast
  | stopped =>
    constructor
    · rw [turnsAt, List.map_cons, evaluations, evaluation?_resume h, Run.evaluation?_of_stopped hflag]
      exact evaluations_of_past hnext ended_ne_waiting turns
    · change (s.resume place t).after (turnsAt place turns) = _
      rw [after_of_past hnext ended_ne_waiting, heq]
  | failed _ hup | ticked _ hup | full _ hup => cases hflag.symm.trans hup

/-- A run that has not come to its limit, or has not begun, does not go beyond its limit and its first tick. -/
theorem count_add_evaluations_le {n : Nat} (h : s.runs[place]? = some r) (hlimit : r.limit = some (n : Int))
    (hcount : r.count < max 1 n) (turns : List (Turn ε)) :
    r.count + (s.evaluations (turnsAt place turns)).length ≤ max 1 n := by
  induction turns generalizing s r with
  | nil => exact hcount.le
  | cons t turns ih =>
    obtain ⟨m', r', hproceeds, -, hnext⟩ := exists_resume h t
    have hone : (r.evaluation? s.monitor t).toList.length ≤ 1 := by cases r.evaluation? s.monitor t <;> simp
    rw [turnsAt, List.map_cons, evaluations, List.length_append, evaluation?_resume h]
    change _ + (_ + ((s.resume place t).evaluations (turnsAt place turns)).length) ≤ _
    cases hproceeds with
    | past hpast =>
      rw [resume_of_past h hpast, Run.evaluation?_of_past hpast, evaluations_of_past h hpast]
      exact hcount.le
    | stopped _ hlow =>
      rw [Run.evaluation?_of_stopped hlow, evaluations_of_past hnext ended_ne_waiting]
      exact hcount.le
    | failed =>
      rw [evaluations_of_past hnext (failed_ne_waiting _), List.length_nil]
      omega
    | full =>
      rw [evaluations_of_past hnext ended_ne_waiting, List.length_nil]
      omega
    | ticked _ _ _ _ _ hfull =>
      have hbelow : ¬ (n : Int) ≤ (r.count + 1 : Nat) := by simpa [Run.isFull, hlimit] using hfull
      have hrest := ih hnext hlimit (show r.count + 1 < max 1 n by omega)
      dsimp only at hrest
      omega

theorem evaluations_runEvents_of_none {first : Turn ε} (h : first.evaluation? s.monitor.rule = none)
    (limit : Option Int) (rest : List (Turn ε)) : s.evaluations (s.runEvents limit first rest) = [] := by
  have hplace := s.begin_getElem? limit
  obtain ⟨m', r', hproceeds, -, hnext⟩ := exists_resume hplace first
  obtain ⟨e, -, herror⟩ := Monitor.tick_of_none (m := (s.begin limit).monitor) h
  rw [evaluations_runEvents, turnsAt, List.map_cons, evaluations, evaluation?_begin, h]
  refine evaluations_of_past hnext ?_ rest
  cases hproceeds with
  | past hpast => exact absurd rfl hpast
  | stopped _ hlow => cases hlow
  | failed => exact failed_ne_waiting _
  | ticked _ _ _ _ htick | full _ _ _ _ htick => cases herror.symm.trans htick

theorem exists_records (rule : Graph) (interval : Quantity) (hasHandler : Bool) (events : List (Event ε)) :
    ∃ made, ((new (.new rule interval hasHandler)).after events).monitor.Records rule hasHandler made := by
  have hnew : (new (.new rule interval hasHandler) : Session ε).monitor.Records rule hasHandler [] :=
    .new rule interval hasHandler
  exact ⟨_, hnew.after events⟩

theorem run_adds {rule : Graph} {hasHandler : Bool} {earlier : List (Inputs × Evaluation)}
    (h : s.monitor.Records rule hasHandler earlier) (limit : Option Int) (first : Turn ε) (rest : List (Turn ε)) :
    let made := s.evaluations (s.runEvents limit first rest)
    (s.run limit first rest).monitor.ticks = s.monitor.ticks + made.length ∧
    (s.run limit first rest).monitor.handled =
      s.monitor.handled ++ (if hasHandler then made.map Prod.snd else []) := by
  intro made
  have hrun : (s.run limit first rest).monitor.Records rule hasHandler (earlier ++ made) :=
    h.after (s.runEvents limit first rest)
  constructor
  · rw [hrun.ticks_eq, h.ticks_eq, List.length_append]
  · rw [hrun.handled_eq, h.handled_eq]
    cases hasHandler <;> simp

/-- Whatever came before, a run with a limit has at most as many ticks as its limit says, and each is one of its
evaluations and one call of the handler. Only a run with the limit zero has one tick more, if it can. -/
theorem run_within_limit (rule : Graph) (interval : Quantity) (hasHandler : Bool) (before : List (Event ε)) (n : Nat)
    (first : Turn ε) (rest : List (Turn ε)) :
    let s := (new (.new rule interval hasHandler)).after before
    let ended := s.run (some (n : Int)) first rest
    let made := s.evaluations (s.runEvents (some (n : Int)) first rest)
    ended.monitor.ticks = s.monitor.ticks + made.length ∧
    ended.monitor.handled = s.monitor.handled ++ (if hasHandler then made.map Prod.snd else []) ∧
    made.length ≤ max 1 n ∧
    (made.length ≤ n ↔ n ≠ 0 ∨ first.evaluation? rule = none) := by
  intro s ended made
  obtain ⟨earlier, hrecords⟩ := exists_records rule interval hasHandler before
  obtain ⟨hticks, hhandled⟩ := run_adds hrecords (some (n : Int)) first rest
  have hturns : made = (s.begin (some (n : Int))).evaluations (turnsAt s.runs.length (first :: rest)) :=
    s.evaluations_runEvents (some (n : Int)) first rest
  have hle : made.length ≤ max 1 n := by
    have h := count_add_evaluations_le (s.begin_getElem? (some (n : Int))) rfl (by simp [Run.new]) (first :: rest)
    rwa [← hturns, Run.new, Nat.zero_add] at h
  refine ⟨hticks, hhandled, hle, ?_⟩
  cases hfirst : first.evaluation? rule with
  | none =>
    have hnone : made = [] := evaluations_runEvents_of_none (by rw [hrecords.rule_eq, hfirst]) _ rest
    exact iff_of_true (by rw [hnone]; exact n.zero_le) (.inr rfl)
  | some p =>
    have hone : 1 ≤ made.length := by
      rw [hturns, turnsAt, List.map_cons, evaluations, evaluation?_begin, hrecords.rule_eq, hfirst]
      simp
    simp only [reduceCtorEq, or_false]
    omega

/-- A run with the limit zero ticks. -/
theorem zeroLimit_ticks :
    let s : Session Unit := new (.new aboveOneRule (.whole 0) true)
    let ended := s.run (some 0) (turnAt (.int 2)) []
    ¬ ended.monitor.ticks ≤ s.monitor.ticks + 0 ∧ ended.monitor.ticks = 1 ∧ ended.monitor.handled.length = 1 := by
  decide +kernel

end Session

end BlockRules
