import BlockRules.Proofs.Monitor.Record

set_option autoImplicit false

/-!
# The flag of a monitor

The flag is raised when a run is started, and lowered when a run ends or the monitor is stopped. A tick that fails
before its evaluation is recorded leaves it as it is, and so does the run that it takes along: when no run is in
progress any more, the flag is still up after such a run, until the monitor is stopped.
-/
namespace BlockRules

variable {ε : Type}

namespace Monitor.Proceeds

variable {m m' : Monitor} {t : Turn ε} {r r' : Run ε}

theorem flag_up (h : m.Proceeds t r m' r') (hflag : m'.running = true) :
    m.running = true ∧ (r.status ≠ .ended → r'.status ≠ .ended) := by
  cases h with
  | past h => exact ⟨hflag, id⟩
  | stopped h hlow => cases hflag
  | failed h hup _ e htick => exact ⟨running_of_tick htick hflag, fun _ => nofun⟩
  | ticked h hup _ e htick => exact ⟨running_of_tick htick hflag, id⟩
  | full h hup _ e htick => cases hflag

theorem flag_of_ended (h : m.Proceeds t r m' r') (hr : r.status = .waiting) (hr' : r'.status = .ended) :
    m'.running = false := by
  cases h with
  | past h => exact absurd hr h
  | stopped | full => exact stop_running _
  | failed => cases hr'
  | ticked => cases hr.symm.trans hr'

theorem flag_of_failed {e : TickError ε} (h : m.Proceeds t r m' r') (hr : r.status = .waiting)
    (hr' : r'.status = .failed e) (he : e.IsEarly) : m'.running = true := by
  cases h with
  | past h => exact absurd hr h
  | stopped | full => cases hr'
  | failed _ hup _ _ htick =>
    cases hr'
    rw [tick_early htick he, hup]
  | ticked => cases hr.symm.trans hr'

end Monitor.Proceeds

namespace Session

def IsIdle (s : Session ε) : Prop := ∀ r ∈ s.runs, r.status ≠ .waiting

instance [DecidableEq ε] (s : Session ε) : Decidable s.IsIdle := inferInstanceAs (Decidable (∀ r ∈ s.runs, _))

/-- A run comes to its end at an event: it has waited until then, or is started by the event. -/
structure EndsAt (s : Session ε) (event : Event ε) (place : Nat) (status : RunStatus ε) : Prop where
  before : ∀ r, s.runs[place]? = some r → r.status = .waiting
  after : ∃ r, (s.step event).runs[place]? = some r ∧ r.status = status

/-- While the flag is up, the run that was started last has not ended. -/
def LastGoesOn (s : Session ε) : Prop :=
  s.monitor.running = true → ∃ r, s.runs.getLast? = some r ∧ r.status ≠ .ended

namespace LastGoesOn

variable {s : Session ε}

theorem new (rule : Graph) (interval : Quantity) (hasHandler : Bool) :
    (new (.new rule interval hasHandler) : Session ε).LastGoesOn := nofun

theorem begin (s : Session ε) (limit : Option Int) : (s.begin limit).LastGoesOn :=
  fun _ => ⟨.new limit, List.getLast?_concat, nofun⟩

theorem resume (h : s.LastGoesOn) (place : Nat) (t : Turn ε) : (s.resume place t).LastGoesOn := by
  cases hplace : s.runs[place]? with
  | none => rwa [resume_of_none hplace]
  | some r =>
    rw [resume_of_some hplace]
    intro hflag
    obtain ⟨hup, hkept⟩ := (s.monitor.proceeds_proceed r t).flag_up hflag
    obtain ⟨last, hlast, hon⟩ := h hup
    rw [List.getLast?_eq_getElem?] at hlast
    rw [List.getLast?_eq_getElem?, List.length_set]
    -- The run that went on is the last one, or leaves the last one alone.
    by_cases heq : place = s.runs.length - 1
    · cases hplace.symm.trans (heq ▸ hlast)
      rw [← heq, List.getElem?_set_self (List.getElem?_eq_some_iff.1 hplace).1]
      exact ⟨_, rfl, hkept hon⟩
    · rw [List.getElem?_set_ne heq]
      exact ⟨last, hlast, hon⟩

theorem step (h : s.LastGoesOn) (event : Event ε) : (s.step event).LastGoesOn := by
  cases event with
  | tick t => exact fun hflag => h (Monitor.running_of_tick rfl hflag)
  | start limit t => exact (begin s limit).resume s.runs.length t
  | resume place t => exact h.resume place t
  | stop => exact nofun

theorem after (h : s.LastGoesOn) (events : List (Event ε)) : (s.after events).LastGoesOn := by
  induction events generalizing s with
  | nil => exact h
  | cons event rest ih => exact ih (h.step event)

end LastGoesOn

theorem begin_waiting {s : Session ε} {place : Nat} (h : ∀ r, s.runs[place]? = some r → r.status = .waiting)
    (limit : Option Int) : ∀ r, (s.begin limit).runs[place]? = some r → r.status = .waiting := by
  intro r hr
  rw [begin, List.getElem?_append] at hr
  split at hr
  · exact h r hr
  · rw [List.mem_singleton.1 (List.mem_of_getElem? hr)]
    rfl

theorem exists_proceeds_of_resume {s : Session ε} {place resumed : Nat} {t : Turn ε}
    (hbefore : ∀ r, s.runs[place]? = some r → r.status = .waiting) {r' : Run ε}
    (hafter : (s.resume resumed t).runs[place]? = some r') (hover : r'.status ≠ .waiting) :
    ∃ r, r.status = .waiting ∧ s.monitor.Proceeds t r (s.resume resumed t).monitor r' := by
  cases hresumed : s.runs[resumed]? with
  | none =>
    rw [resume_of_none hresumed] at hafter
    exact absurd (hbefore r' hafter) hover
  | some r =>
    rw [resume_of_some hresumed] at hafter ⊢
    by_cases heq : resumed = place
    · subst heq
      rw [List.getElem?_set_self (List.getElem?_eq_some_iff.1 hresumed).1] at hafter
      cases hafter
      exact ⟨r, hbefore r hresumed, s.monitor.proceeds_proceed r t⟩
    · rw [List.getElem?_set_ne heq] at hafter
      exact absurd (hbefore r' hafter) hover

theorem EndsAt.exists_proceeds {s : Session ε} {event : Event ε} {place : Nat} {status : RunStatus ε}
    (h : s.EndsAt event place status) (hover : status ≠ .waiting) :
    ∃ (m : Monitor) (t : Turn ε) (r r' : Run ε),
      r.status = .waiting ∧ r'.status = status ∧ m.Proceeds t r (s.step event).monitor r' := by
  obtain ⟨r', hafter, rfl⟩ := h.after
  cases event with
  | tick t => exact absurd (h.before r' hafter) hover
  | start limit t =>
    obtain ⟨r, hr, hproceeds⟩ := exists_proceeds_of_resume (begin_waiting h.before limit) hafter hover
    exact ⟨_, t, r, r', hr, rfl, hproceeds⟩
  | resume resumed t =>
    obtain ⟨r, hr, hproceeds⟩ := exists_proceeds_of_resume h.before hafter hover
    exact ⟨_, t, r, r', hr, rfl, hproceeds⟩
  | stop => exact absurd (h.before r' hafter) hover

/-- Where no run is in progress, the flag is down, unless the run that was started last has failed. A run that ends
lowers the flag; one that fails before its evaluation is recorded leaves it up; and a stop lowers it in any case. -/
theorem flag_down_unless_failed (rule : Graph) (interval : Quantity) (hasHandler : Bool) (events : List (Event ε)) :
    let s := (new (.new rule interval hasHandler)).after events
    (s.IsIdle → s.monitor.running = true → ∃ r e, s.runs.getLast? = some r ∧ r.status = .failed e) ∧
    (∀ event place, s.EndsAt event place .ended → (s.step event).monitor.running = false) ∧
    (∀ event place e, s.EndsAt event place (.failed e) → e.IsEarly → (s.step event).monitor.running = true) ∧
    (s.step .stop).monitor.running = false := by
  intro s
  have hlast : s.LastGoesOn := (LastGoesOn.new rule interval hasHandler).after events
  refine ⟨fun hidle hflag => ?_, fun event place h => ?_, fun event place e h he => ?_, rfl⟩
  · obtain ⟨r, hr, hon⟩ := hlast hflag
    cases hstatus : r.status with
    | waiting => exact absurd hstatus (hidle r (List.mem_of_getLast? hr))
    | ended => exact absurd hstatus hon
    | failed e => exact ⟨r, e, hr, hstatus⟩
  · obtain ⟨m, t, r, r', hr, hr', hproceeds⟩ := h.exists_proceeds nofun
    exact hproceeds.flag_of_ended hr hr'
  · obtain ⟨m, t, r, r', hr, hr', hproceeds⟩ := h.exists_proceeds nofun
    exact hproceeds.flag_of_failed hr hr' he

def spoiltRun : Session Unit :=
  (new (.new aboveOneRule (.whole 0) true)).after [.start (some 1) (turnAt (.int (Number.tenPow 309)))]

theorem spoiltRun_flagUp : spoiltRun.IsIdle ∧ spoiltRun.monitor.running = true := by decide +kernel

theorem spoiltRun_failed : spoiltRun.IsIdle ∧ (∃ r e, spoiltRun.runs.getLast? = some r ∧ r.status = .failed e) ∧
    (spoiltRun.step .stop).monitor.running = false := by
  have hidle : spoiltRun.IsIdle := by decide +kernel
  obtain ⟨hfailed, -, -, hstop⟩ := flag_down_unless_failed aboveOneRule (.whole 0) true
    [.start (some 1) (turnAt (.int (Number.tenPow 309)))]
  exact ⟨hidle, hfailed hidle (by decide +kernel), hstop⟩

end Session

end BlockRules
