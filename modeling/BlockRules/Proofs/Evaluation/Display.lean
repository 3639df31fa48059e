import BlockRules.Proofs.Walk.Firing

set_option autoImplicit false

/-!
# What displayed lines tell

A line of a trace has text of the rule's author between its indentation and kind on the one side and its outcome on
the other. That text cannot be taken for either: no kind starts with a space, none begins another with its colon, and
no outcome ends another. So the lines tell all of the steps but the identifiers, and with that what the evaluation
found.
-/
namespace BlockRules

namespace Visit

/-- What stands before the description in a line, after the indentation. -/
def heading (v : Visit) : List Char := (v.kind ++ ": ").toList

def ending (v : Visit) : List Char := (" → " ++ v.outcome).toList

theorem eq_iff {v w : Visit} : v = w ↔ v.kind = w.kind ∧ v.outcome = w.outcome := by
  rcases v with (_ | _) | (_ | _) | _ | _ <;> rcases w with (_ | _) | (_ | _) | _ | _ <;> decide

theorem kind_eq_of_heading {v w : Visit} : v.heading <+: w.heading → v.kind = w.kind := by
  rcases v with (_ | _) | (_ | _) | _ | _ <;> rcases w with (_ | _) | (_ | _) | _ | _ <;> decide

theorem outcome_eq_of_ending {v w : Visit} : v.ending <:+ w.ending → v.outcome = w.outcome := by
  rcases v with (_ | _) | (_ | _) | _ | _ <;> rcases w with (_ | _) | (_ | _) | _ | _ <;> decide

theorem takeWhile_heading (v : Visit) (rest : List Char) : (v.heading ++ rest).takeWhile (· == ' ') = [] := by
  cases v <;> simp [heading, kind]

end Visit

namespace Step

/-- Two steps look the same: all that a line shows of them is. -/
structure LooksLike (s t : Step) : Prop where
  kind : s.visit.kind = t.visit.kind
  description : s.description = t.description
  outcome : s.visit.outcome = t.visit.outcome
  depth : s.depth = t.depth

theorem LooksLike.visit {s t : Step} (h : s.LooksLike t) : s.visit = t.visit := Visit.eq_iff.2 ⟨h.kind, h.outcome⟩

theorem toList_line (s : Step) : s.line.toList = List.replicate (2 * s.depth) ' ' ++
    (s.visit.heading ++ (s.description.toList ++ s.visit.ending)) := by
  simp [line, Visit.heading, Visit.ending]

theorem length_takeWhile_line (s : Step) : (s.line.toList.takeWhile (· == ' ')).length = 2 * s.depth := by
  have hspaces : ∀ c ∈ List.replicate (2 * s.depth) ' ', (c == ' ') = true := by
    intro c hc
    rw [List.eq_of_mem_replicate hc]
    rfl
  rw [toList_line, List.takeWhile_append_of_pos hspaces, Visit.takeWhile_heading, List.append_nil]
  exact List.length_replicate

theorem depth_eq_of_line {s t : Step} (h : s.line = t.line) : s.depth = t.depth := by
  have hs := s.length_takeWhile_line
  rw [h, length_takeWhile_line] at hs
  omega

/-- Lines are equal if and only if the steps look the same. -/
theorem line_eq_iff {s t : Step} : s.line = t.line ↔ s.LooksLike t := by
  constructor
  · intro h
    have hdepth := depth_eq_of_line h
    have hline := congrArg String.toList h
    rw [toList_line, toList_line, hdepth] at hline
    have hrest := List.append_cancel_left hline
    -- Both headings begin one text, so one of them begins the other.
    have hkind : s.visit.kind = t.visit.kind := by
      obtain hpre | hpre := List.prefix_or_prefix_of_prefix ⟨_, hrest⟩ (List.prefix_append _ _)
      · exact Visit.kind_eq_of_heading hpre
      · exact (Visit.kind_eq_of_heading hpre).symm
    have hheading : s.visit.heading = t.visit.heading := by rw [Visit.heading, Visit.heading, hkind]
    rw [hheading] at hrest
    have hend := List.append_cancel_left hrest
    have houtcome : s.visit.outcome = t.visit.outcome := by
      obtain hsuf | hsuf := List.suffix_or_suffix_of_suffix ⟨_, hend⟩ (List.suffix_append _ _)
      · exact Visit.outcome_eq_of_ending hsuf
      · exact (Visit.outcome_eq_of_ending hsuf).symm
    have hending : s.visit.ending = t.visit.ending := by rw [Visit.ending, Visit.ending, houtcome]
    rw [hending] at hend
    exact ⟨hkind, String.toList_injective (List.append_cancel_right hend), houtcome, hdepth⟩
  · intro h
    rw [line, line, h.visit, h.description, h.depth]

end Step

namespace Evaluation
open Step

theorem path_eq_iff {e e' : Evaluation} : e.path = e'.path ↔ List.Forall₂ LooksLike e.steps e'.steps := by
  rw [path, path, ← List.forall₂_eq_eq_eq, List.forall₂_map_left_iff, List.forall₂_map_right_iff]
  simp only [line_eq_iff]

theorem actions_of_looksLike {xs ys : List Step} (h : List.Forall₂ LooksLike xs ys) :
    (xs.filter isAction).map (·.description) = (ys.filter isAction).map (·.description) := by
  induction h with
  | nil => rfl
  | @cons s t xs ys hst _ ih =>
    have haction : s.isAction = t.isAction := by rw [isAction, isAction, hst.visit]
    rw [List.filter_cons, List.filter_cons, haction]
    split
    · rw [List.map_cons, List.map_cons, hst.description, ih]
    · exact ih

end Evaluation

namespace Graph
open Step

theorem evaluate_reports {g : Graph} {inputs : Inputs} {e : Evaluation} (h : g.evaluate inputs = .ok e) :
    e.actions = (e.steps.filter isAction).map (·.description) ∧
      (e.matched = true ↔ ∃ s ∈ e.steps, s.visit = .action) := by
  have he : e = .ofSteps e.steps := (evaluate_actions h).1
  refine ⟨congrArg Evaluation.actions he, ?_⟩
  have hmatched := Evaluation.ofSteps_matched_iff e.steps
  rw [← he] at hmatched
  simpa only [isAction, beq_iff_eq] using hmatched

/-- What is displayed of an evaluation determines it, whatever texts the rules hold: equal paths mean steps that look
the same one by one, and with them the same actions and the same answer. For the actions of an evaluation are the
descriptions of its action steps, in order, and it matched if and only if it has such a step. -/
theorem displayed_path_determines {g g' : Graph} {inputs inputs' : Inputs} {e e' : Evaluation}
    (h : g.evaluate inputs = .ok e) (h' : g'.evaluate inputs' = .ok e') :
    (e.path = e'.path ↔ List.Forall₂ LooksLike e.steps e'.steps) ∧
    (e.path = e'.path → e.matched = e'.matched ∧ e.actions = e'.actions) ∧
    e.actions = (e.steps.filter isAction).map (·.description) ∧
    (e.matched = true ↔ ∃ s ∈ e.steps, s.visit = .action) := by
  obtain ⟨hactions, hmatched⟩ := evaluate_reports h
  refine ⟨Evaluation.path_eq_iff, fun hpath => ?_, hactions, hmatched⟩
  have htexts := Evaluation.actions_of_looksLike (Evaluation.path_eq_iff.1 hpath)
  rw [(evaluate_actions h).1, (evaluate_actions h').1]
  simp only [Evaluation.ofSteps, htexts, and_self]

/-- An alarm whose texts imitate lines of a trace. -/
def mimicAlarm (door alarm : String) : Graph where
  nodes :=
    [⟨door, default, .condition ⟨some "door → ✓ TRUE", none, some "===", .text "  Action: Ring → ✓ EXECUTED", none⟩⟩,
      ⟨alarm, default, .action ⟨none, none, none, some "Operator: OR → ✗ FALSE"⟩⟩]
  edges := [⟨"", door, alarm⟩, ⟨"", door, "gone"⟩]

def mimicInputs : Inputs := [("door → ✓ TRUE", .text "  Action: Ring → ✓ EXECUTED")]

def mimicEvaluation (door alarm : String) : Evaluation := .ofSteps
  [⟨door, .condition true, "door → ✓ TRUE ===   Action: Ring → ✓ EXECUTED", 0⟩,
    ⟨alarm, .action, "Operator: OR → ✗ FALSE", 1⟩]

/-- Under other identifiers the alarm leaves another trace, which is displayed in the same way. -/
theorem mimicAlarm_displayed : (mimicAlarm "door" "alarm").evaluate mimicInputs = .ok (mimicEvaluation "door" "alarm") ∧
    (mimicAlarm "a" "b").evaluate mimicInputs = .ok (mimicEvaluation "a" "b") ∧
    (mimicEvaluation "door" "alarm").steps ≠ (mimicEvaluation "a" "b").steps ∧
    (mimicEvaluation "door" "alarm").path = (mimicEvaluation "a" "b").path ∧
    List.Forall₂ LooksLike (mimicEvaluation "door" "alarm").steps (mimicEvaluation "a" "b").steps ∧
    (mimicEvaluation "door" "alarm").actions = (mimicEvaluation "a" "b").actions ∧
    ∃ s ∈ (mimicEvaluation "door" "alarm").steps, s.visit = .action := by
  have h : (mimicAlarm "door" "alarm").evaluate mimicInputs = .ok (mimicEvaluation "door" "alarm") := by
    decide +kernel
  have h' : (mimicAlarm "a" "b").evaluate mimicInputs = .ok (mimicEvaluation "a" "b") := by decide +kernel
  have hpath : (mimicEvaluation "door" "alarm").path = (mimicEvaluation "a" "b").path := by decide +kernel
  obtain ⟨hlook, hresult, -, hmatched⟩ := displayed_path_determines h h'
  exact ⟨h, h', by decide +kernel, hpath, hlook.1 hpath, (hresult hpath).2, hmatched.1 rfl⟩

end Graph

end BlockRules
