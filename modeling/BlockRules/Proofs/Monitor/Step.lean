import BlockRules.Monitor

set_option autoImplicit false

namespace BlockRules

variable {ε : Type}

namespace Turn

/-- The snapshot that a turn holds and the evaluation of a rule on it, if there are both. -/
def evaluation? (t : Turn ε) (rule : Graph) : Option (Inputs × Evaluation) :=
  t.sample.toOption.bind fun snapshot => (rule.evaluate snapshot).toOption.map (Prod.mk snapshot)

theorem evaluation?_eq_some_iff {t : Turn ε} {rule : Graph} {snapshot : Inputs} {e : Evaluation} :
    t.evaluation? rule = some (snapshot, e) ↔ t.sample = .ok snapshot ∧ rule.evaluate snapshot = .ok e := by
  rw [evaluation?]
  cases t.sample with
  | error _ => simp [Except.toOption]
  | ok sampled =>
    cases hevaluated : rule.evaluate sampled with
    | error _ =>
      refine iff_of_false (by simp [Except.toOption, hevaluated]) ?_
      rintro ⟨heq, h⟩
      cases heq
      cases hevaluated.symm.trans h
    | ok e' =>
      simp only [Except.toOption, Option.bind_some, hevaluated, Option.map_some, Option.some.injEq, Prod.mk.injEq,
        Except.ok.injEq]
      refine and_congr_right fun heq => ?_
      rw [← heq, hevaluated, Except.ok.injEq]

end Turn

/-- An error that comes before anything is recorded. -/
def TickError.IsEarly (e : TickError ε) : Prop := ∀ failure, e ≠ .handling failure

namespace Monitor

@[simp] theorem withFlag_running (m : Monitor) (flag : Bool) : (m.withFlag flag).running = flag := rfl

@[simp] theorem withFlag_withFlag (m : Monitor) (first flag : Bool) :
    (m.withFlag first).withFlag flag = m.withFlag flag := rfl

theorem withFlag_self (m : Monitor) : m.withFlag m.running = m := rfl

@[simp] theorem stop_running (m : Monitor) : m.stop.running = false := rfl

theorem heed_eq (m : Monitor) (r : Reaction ε) : m.heed r = m.withFlag (m.running && !r.stops) := by
  rw [heed]
  cases r.stops with
  | true => rw [Bool.not_true, Bool.and_false, if_pos rfl, stop]
  | false => rw [Bool.not_false, Bool.and_true, if_neg Bool.false_ne_true, withFlag_self]

variable {m m' : Monitor} {t : Turn ε}

theorem tick_of_some {snapshot : Inputs} {e : Evaluation} (h : t.evaluation? m.rule = some (snapshot, e)) :
    m.tick t = (((m.record snapshot e).callHandler e).heed (m.reaction t e), (m.reaction t e).outcome e) := by
  obtain ⟨hsample, hevaluated⟩ := Turn.evaluation?_eq_some_iff.1 h
  rw [tick, hsample]
  dsimp only
  rw [hevaluated]

theorem tick_of_none (h : t.evaluation? m.rule = none) : ∃ e : TickError ε, e.IsEarly ∧ m.tick t = (m, .error e) := by
  cases hsample : t.sample with
  | error e => exact ⟨.sampling e, nofun, by rw [tick, hsample]⟩
  | ok snapshot =>
    cases hevaluated : m.rule.evaluate snapshot with
    | error e =>
      refine ⟨.comparison e, nofun, ?_⟩
      rw [tick, hsample]
      dsimp only
      rw [hevaluated]
    | ok e => cases h.symm.trans (Turn.evaluation?_eq_some_iff.2 ⟨hsample, hevaluated⟩)

theorem tick_early {e : TickError ε} (htick : m.tick t = (m', .error e)) (he : e.IsEarly) : m' = m := by
  cases h : t.evaluation? m.rule with
  | none =>
    obtain ⟨e', -, heq⟩ := tick_of_none h
    exact congrArg Prod.fst (htick.symm.trans heq)
  | some p =>
    have houtcome := congrArg Prod.snd ((tick_of_some h).symm.trans htick)
    dsimp only [Reaction.outcome] at houtcome
    split at houtcome
    · cases houtcome
      exact absurd rfl (he _)
    · cases houtcome

theorem running_of_tick {result : Except (TickError ε) Evaluation} (htick : m.tick t = (m', result))
    (hflag : m'.running = true) : m.running = true := by
  cases h : t.evaluation? m.rule with
  | none =>
    obtain ⟨e, -, heq⟩ := tick_of_none h
    cases htick.symm.trans heq
    exact hflag
  | some p =>
    cases htick.symm.trans (tick_of_some h)
    rw [heed_eq, withFlag_running, Bool.and_eq_true] at hflag
    exact hflag.1

/-- How a run goes on. -/
inductive Proceeds (m : Monitor) (t : Turn ε) (r : Run ε) : Monitor → Run ε → Prop where
  | past (h : r.status ≠ .waiting) : Proceeds m t r m r
  | stopped (h : r.status = .waiting) (hflag : m.running = false) : Proceeds m t r m.stop { r with status := .ended }
  | failed (h : r.status = .waiting) (hflag : m.running = true) (m' : Monitor) (e : TickError ε)
      (htick : m.tick t = (m', .error e)) : Proceeds m t r m' { r with status := .failed e }
  | ticked (h : r.status = .waiting) (hflag : m.running = true) (m' : Monitor) (e : Evaluation)
      (htick : m.tick t = (m', .ok e)) (hfull : Run.isFull { r with count := r.count + 1 } = false) :
      Proceeds m t r m' { r with count := r.count + 1 }
  | full (h : r.status = .waiting) (hflag : m.running = true) (m' : Monitor) (e : Evaluation)
      (htick : m.tick t = (m', .ok e)) (hfull : Run.isFull { r with count := r.count + 1 } = true) :
      Proceeds m t r m'.stop { r with count := r.count + 1, status := .ended }

theorem proceeds_proceed (m : Monitor) (r : Run ε) (t : Turn ε) :
    m.Proceeds t r (m.proceed r t).1 (m.proceed r t).2 := by
  rw [proceed]
  split
  · rename_i h
    cases hflag : m.running with
    | false => exact .stopped h hflag
    | true =>
      rw [if_pos rfl]
      split
      · exact .failed h hflag _ _ ‹_›
      · dsimp only
        split
        · exact .full h hflag _ _ ‹_› ‹_›
        · exact .ticked h hflag _ _ ‹_› (eq_false_of_ne_true ‹_›)
  · exact .past ‹_›

end Monitor

namespace Session

variable {s : Session ε} {place : Nat} {t : Turn ε}

theorem resume_of_none (h : s.runs[place]? = none) : s.resume place t = s := by
  rw [resume, h]

theorem resume_of_some {r : Run ε} (h : s.runs[place]? = some r) :
    s.resume place t = ⟨(s.monitor.proceed r t).1, s.runs.set place (s.monitor.proceed r t).2⟩ := by
  rw [resume, h]

theorem begin_getElem? (s : Session ε) (limit : Option Int) :
    (s.begin limit).runs[s.runs.length]? = some (.new limit) := List.getElem?_concat_length

end Session

end BlockRules
