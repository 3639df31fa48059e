import BlockRules.Proofs.Monitor.Alone

set_option autoImplicit false

/-!
# How often a run ticks

A run can have a limit, and its handler can stop the monitor when it is called for a certain time. The limit is looked
at right after a tick, and the flag only when the run goes on. In either case the run has as many ticks as the smaller
of the two numbers says.
-/
namespace BlockRules

variable {ε : Type}

/-- The turns of a run on some snapshots, with a handler that stops the monitor when it is called for a certain
time. -/
def countingTurn (stopAt : Option Nat) (snapshots : Nat → Inputs) (i : Nat) : Turn ε :=
  ⟨.ok (snapshots i), fun _ => ⟨stopAt == some (i + 1), none⟩⟩

theorem of_merge_min {a b : Option Nat} {m : Nat} (h : Option.merge min a b = some m) :
    (∀ n ∈ a, m ≤ n) ∧ (∀ n ∈ b, m ≤ n) ∧ (a = some m ∨ b = some m) := by
  cases a <;> cases b <;> simp [Option.merge] at h ⊢ <;> omega

theorem Run.isFull_iff {limit : Option Nat} {count : Nat} {status : RunStatus ε} :
    (Run.mk (limit.map Int.ofNat) count status).isFull = true ↔ ∃ n ∈ limit, n ≤ count := by
  cases limit <;> simp [Run.isFull]

namespace Session
open RunStatus (ended_ne_waiting)

/-- A run at a place has counted some ticks and waits for its next turn, with the flag up and a handler. -/
structure Waits (s : Session ε) (rule : Graph) (place : Nat) (limit : Option Nat) (count : Nat) : Prop where
  found : s.runs[place]? = some ⟨limit.map Int.ofNat, count, .waiting⟩
  flag : s.monitor.running = true
  rule_eq : s.monitor.rule = rule
  hasHandler : s.monitor.hasHandler = true

namespace Waits

variable {s : Session ε} {rule : Graph} {place count : Nat} {limit stopAt : Option Nat} {snapshots : Nat → Inputs}

theorem getElem?_set (h : s.Waits rule place limit count) (r : Run ε) : (s.runs.set place r)[place]? = some r :=
  List.getElem?_set_self (List.getElem?_eq_some_iff.1 h.found).1

section turn
variable {e : Evaluation} (stopAt) (h : s.Waits rule place limit count)
  (he : rule.evaluate (snapshots count) = .ok e)
include h he

theorem evaluation?_turn :
    s.evaluation? (.resume place (countingTurn stopAt snapshots count)) = some (snapshots count, e) := by
  rw [evaluation?_resume h.found, Run.evaluation?_of_goesOn rfl h.flag, h.rule_eq]
  exact Turn.evaluation?_eq_some_iff.2 ⟨rfl, he⟩

theorem tick_turn :
    s.monitor.tick (countingTurn stopAt snapshots count : Turn ε) =
      (((s.monitor.record (snapshots count) e).callHandler e).withFlag (stopAt != some (count + 1)), .ok e) := by
  have hmade : (countingTurn stopAt snapshots count : Turn ε).evaluation? s.monitor.rule = some (snapshots count, e) :=
    Turn.evaluation?_eq_some_iff.2 ⟨rfl, h.rule_eq ▸ he⟩
  have hreaction : s.monitor.reaction (countingTurn stopAt snapshots count : Turn ε) e =
      ⟨stopAt == some (count + 1), none⟩ := by
    rw [Monitor.reaction, h.hasHandler]
    rfl
  have hup : ((s.monitor.record (snapshots count) e).callHandler e).running = true := h.flag
  rw [Monitor.tick_of_some hmade, hreaction, Monitor.heed_eq, hup, Bool.true_and]
  rfl

/-- On its turn a run ticks. Then it ends if its limit is reached, and else waits. -/
theorem resume_turn : ∃ ticked : Monitor,
    (ticked.rule = rule ∧ ticked.hasHandler = true ∧ ticked.running = (stopAt != some (count + 1))) ∧
    s.resume place (countingTurn stopAt snapshots count) =
      if ∃ n ∈ limit, n ≤ count + 1 then
        ⟨ticked.stop, s.runs.set place ⟨limit.map Int.ofNat, count + 1, .ended⟩⟩
      else ⟨ticked, s.runs.set place ⟨limit.map Int.ofNat, count + 1, .waiting⟩⟩ := by
  have htick := h.tick_turn stopAt he
  obtain ⟨m', r', hproceeds, heq, -⟩ := exists_resume h.found (countingTurn stopAt snapshots count)
  refine ⟨((s.monitor.record (snapshots count) e).callHandler e).withFlag (stopAt != some (count + 1)),
    ⟨h.rule_eq, h.hasHandler, rfl⟩, ?_⟩
  rw [heq]
  cases hproceeds with
  | past hpast => exact absurd rfl hpast
  | stopped _ hlow => cases h.flag.symm.trans hlow
  | failed _ _ _ _ htick' => cases htick.symm.trans htick'
  | ticked _ _ _ _ htick' hfull =>
    cases htick.symm.trans htick'
    rw [if_neg fun hreached => Bool.false_ne_true (hfull.symm.trans (Run.isFull_iff.2 hreached))]
  | full _ _ _ _ htick' hfull =>
    cases htick.symm.trans htick'
    rw [if_pos (Run.isFull_iff.1 hfull)]

theorem next_turn (hlimit : ∀ n ∈ limit, count + 1 < n) (hstop : stopAt ≠ some (count + 1)) :
    (s.resume place (countingTurn stopAt snapshots count)).Waits rule place limit (count + 1) ∧
      (s.resume place (countingTurn stopAt snapshots count)).runs =
        s.runs.set place ⟨limit.map Int.ofNat, count + 1, .waiting⟩ := by
  obtain ⟨ticked, ⟨hrule, hhandler, hflag⟩, heq⟩ := h.resume_turn stopAt he
  rw [heq, if_neg (by push Not; exact hlimit)]
  exact ⟨⟨h.getElem?_set _, hflag.trans (bne_iff_ne.2 hstop), hrule, hhandler⟩, rfl⟩

theorem last_turn (hlast : (∃ n ∈ limit, n ≤ count + 1) ∨ stopAt = some (count + 1)) (t : Turn ε)
    (turns : List (Turn ε)) :
    (s.resume place (countingTurn stopAt snapshots count)).evaluations (turnsAt place (t :: turns)) = [] ∧
    ∃ m : Monitor, m.running = false ∧
      (s.resume place (countingTurn stopAt snapshots count)).after (turnsAt place (t :: turns)) =
        ⟨m, s.runs.set place ⟨limit.map Int.ofNat, count + 1, .ended⟩⟩ := by
  obtain ⟨ticked, ⟨-, -, hflag⟩, heq⟩ := h.resume_turn stopAt he
  rw [heq]
  by_cases hreached : ∃ n ∈ limit, n ≤ count + 1
  · have hended := h.getElem?_set ⟨limit.map Int.ofNat, count + 1, .ended⟩
    rw [if_pos hreached, evaluations_of_past (s := ⟨ticked.stop, _⟩) hended ended_ne_waiting,
      after_of_past (s := ⟨ticked.stop, _⟩) hended ended_ne_waiting]
    exact ⟨rfl, ticked.stop, rfl, rfl⟩
  · rw [hlast.resolve_left hreached, bne_self_eq_false] at hflag
    rw [if_neg hreached]
    have hwaiting := h.getElem?_set ⟨limit.map Int.ofNat, count + 1, .waiting⟩
    obtain ⟨hnone, hover⟩ := over_of_lowered (s := ⟨ticked, _⟩) hwaiting rfl hflag t turns
    rw [hover, List.set_set]
    exact ⟨hnone, ticked.stop, rfl, rfl⟩

end turn

/-- From a turn on, a run ticks until the smaller of the two numbers, and is over one turn later. -/
theorem remaining {evaluations : Nat → Evaluation} (hevaluate : ∀ i, rule.evaluate (snapshots i) = .ok (evaluations i))
    {m : Nat} (hm : Option.merge min limit stopAt = some m) {turns : Nat} (h : s.Waits rule place limit count)
    (hcount : count < m) (hturns : m - count < turns) :
    s.evaluations (turnsAt place ((List.range' count turns).map (countingTurn stopAt snapshots))) =
      (List.range' count (m - count)).map (fun i => (snapshots i, evaluations i)) ∧
    ∃ m' : Monitor, m'.running = false ∧
      s.after (turnsAt place ((List.range' count turns).map (countingTurn stopAt snapshots))) =
        ⟨m', s.runs.set place ⟨limit.map Int.ofNat, m, .ended⟩⟩ := by
  obtain ⟨hlimit, hstop, hreached⟩ := of_merge_min hm
  induction turns generalizing s count with
  | zero => omega
  | succ turns ih =>
    have hmade := h.evaluation?_turn stopAt (hevaluate count)
    rw [List.range'_succ, List.map_cons, turnsAt, List.map_cons, Session.evaluations, hmade]
    change [_] ++ (s.resume place _).evaluations (turnsAt place _) = _ ∧
      ∃ m' : Monitor, _ ∧ (s.resume place _).after (turnsAt place _) = _
    by_cases hlast : count + 1 = m
    · have hone : m - count = 1 := by omega
      obtain ⟨turns, rfl⟩ : ∃ later, turns = later + 1 := ⟨turns - 1, by omega⟩
      have hend : (∃ n ∈ limit, n ≤ count + 1) ∨ stopAt = some (count + 1) :=
        hreached.imp (fun h => ⟨m, h, hlast.ge⟩) fun h => hlast ▸ h
      rw [List.range'_succ, List.map_cons]
      obtain ⟨hnone, hover⟩ := h.last_turn stopAt (hevaluate count) hend _ _
      rw [hnone, hone, ← hlast]
      exact ⟨rfl, hover⟩
    · have hmore : m - count = m - (count + 1) + 1 := by omega
      have hbefore : ∀ n ∈ limit, count + 1 < n := fun n hn => by have := hlimit n hn; omega
      have hgoesOn : stopAt ≠ some (count + 1) := fun heq => by have := hstop _ heq; omega
      obtain ⟨hwaits, hruns⟩ := h.next_turn stopAt (hevaluate count) hbefore hgoesOn
      obtain ⟨hrest, hover⟩ := ih hwaits (by omega) (by omega)
      rw [hrest, hmore, List.range'_succ]
      rw [hruns, List.set_set] at hover
      exact ⟨rfl, hover⟩

end Waits

theorem begin_waits {s : Session ε} {rule : Graph} (hrule : s.monitor.rule = rule)
    (hhandler : s.monitor.hasHandler = true) (limit : Option Nat) :
    (s.begin (limit.map Int.ofNat)).Waits rule s.runs.length limit 0 :=
  ⟨s.begin_getElem? _, rfl, hrule, hhandler⟩

/-- Whatever came before, a run with a limit, or with a handler that stops the monitor when it is called for a certain
time in this run, or with both, ticks as often as the smaller of the two numbers says: on the first snapshots, in
order, each time with a call of the handler. Then the flag is down, and the run is over after one turn more at most. -/
theorem run_ticks_min (rule : Graph) (interval : Quantity) (before : List (Event ε)) {limit stopAt : Option Nat}
    (hlimit : limit ≠ some 0) (hstop : stopAt ≠ some 0) {m : Nat} (hm : Option.merge min limit stopAt = some m)
    {snapshots : Nat → Inputs} {evaluations : Nat → Evaluation}
    (hevaluate : ∀ i, rule.evaluate (snapshots i) = .ok (evaluations i)) {later : Nat} (hlater : m ≤ later) :
    let s := (new (.new rule interval true)).after before
    let turn : Nat → Turn ε := countingTurn stopAt snapshots
    let rest := (List.range' 1 later).map turn
    let ended := s.run (limit.map Int.ofNat) (turn 0) rest
    s.evaluations (s.runEvents (limit.map Int.ofNat) (turn 0) rest) =
      (List.range m).map (fun i => (snapshots i, evaluations i)) ∧
    ended.monitor.ticks = s.monitor.ticks + m ∧
    ended.monitor.handled = s.monitor.handled ++ (List.range m).map evaluations ∧
    ended.monitor.running = false ∧
    ended.runs = s.runs ++ [⟨limit.map Int.ofNat, m, .ended⟩] := by
  intro s turn rest ended
  obtain ⟨earlier, hrecords⟩ := exists_records rule interval true before
  have hpos : 0 < m := by
    obtain ⟨-, -, h | h⟩ := of_merge_min hm
    · exact Nat.pos_of_ne_zero fun hzero => hlimit (hzero ▸ h)
    · exact Nat.pos_of_ne_zero fun hzero => hstop (hzero ▸ h)
  have hturns : turn 0 :: rest = (List.range' 0 (later + 1)).map turn := by rw [List.range'_succ, List.map_cons]
  obtain ⟨hmade, m', hflag, hover⟩ := (begin_waits hrecords.rule_eq hrecords.hasHandler_eq limit).remaining hevaluate hm
    hpos (show m - 0 < later + 1 by omega)
  rw [← hturns, ← evaluations_runEvents, Nat.sub_zero, ← List.range_eq_range'] at hmade
  have hended : ended = ⟨m', s.runs ++ [⟨limit.map Int.ofNat, m, .ended⟩]⟩ := by
    rw [show ended = _ from s.run_eq _ _ _, hturns, hover, begin, List.set_append_right _ _ le_rfl, Nat.sub_self]
    rfl
  obtain ⟨hticks, hhandled⟩ := run_adds hrecords (limit.map Int.ofNat) (turn 0) rest
  rw [hmade, List.length_map, List.length_range] at hticks
  rw [hmade, if_pos rfl, List.map_map] at hhandled
  refine ⟨hmade, hticks, hhandled, ?_, ?_⟩
  · rw [hended]
    exact hflag
  · rw [hended]

/-- The monitor was left with its flag up by a run that failed. The next run is stopped on its second tick, before its
limit. -/
theorem brokenRun_then_stopped :
    let s := (new (.new aboveOneRule (.whole 1) true)).after brokenRun
    let turn : Nat → Turn Unit := countingTurn (some 2) fun _ => [("x", .int 2)]
    let ended := s.run (some 3) (turn 0) [turn 1, turn 2]
    s.monitor.running = true ∧ Option.merge min (some 3) (some 2) = some 2 ∧
    ended.monitor.ticks = s.monitor.ticks + 2 ∧
    ended.monitor.handled = s.monitor.handled ++
      List.replicate 2 (.ofSteps [⟨"above", .condition true, "x > 1", 0⟩]) ∧
    ended.monitor.running = false := by
  have hevaluate : ∀ _ : Nat, aboveOneRule.evaluate [("x", .int 2)] =
      .ok (.ofSteps [⟨"above", .condition true, "x > 1", 0⟩]) := fun _ => by decide +kernel
  obtain ⟨-, hticks, hhandled, hflag, -⟩ := run_ticks_min aboveOneRule (.whole 1) brokenRun
    (show some 3 ≠ some 0 by decide) (show some 2 ≠ some 0 by decide) (show _ = some 2 from rfl) hevaluate le_rfl
  exact ⟨by decide +kernel, rfl, hticks, hhandled, hflag⟩

end Session

end BlockRules
