import BlockRules.Proofs.Evaluation.Display
import BlockRules.Proofs.Wording.Lines

set_option autoImplicit false

/-!
# Reports and lines of actions

An evaluation reports an action by its description, and pseudocode lists it on a line of its own. The line is the
description, but for parentheses around an undefined action and a word before a list of parameters. So every report
of an evaluation is found among the lines after `THEN`.
-/
namespace BlockRules

namespace Action

/-- Neither a type nor a label that says something. -/
def IsUndefined (a : Action) : Prop := given? a.actionType = none ∧ a.meaningfulLabel? = none

/-- A type and a target, and parameters with them. -/
structure Lists (a : Action) (parameters : String) : Prop where
  actionType : given? a.actionType ≠ none
  target : given? a.target ≠ none
  parameters : given? a.parameters = some parameters

/-- The line that goes with a report of an action. -/
inductive ShownBy (a : Action) : (report line : String) → Prop where
  | undefined (hundefined : a.IsUndefined) : ShownBy a undefinedText (indent ("(" ++ undefinedText ++ ")"))
  | listed {heading parameters : String} (hlists : a.Lists parameters) :
      ShownBy a (heading ++ " (" ++ parameters ++ ")") (indent (heading ++ " with parameters (" ++ parameters ++ ")"))
  | plain {report : String} (hdefined : ¬a.IsUndefined) (hbare : ∀ parameters, ¬a.Lists parameters) :
      ShownBy a report (indent report)

theorem shownBy_codeLine (a : Action) : a.ShownBy a.description a.codeLine := by
  cases htype : given? a.actionType with
  | none =>
    rw [description, codeLine, htype]
    cases hlabel : a.meaningfulLabel? with
    | none => exact .undefined ⟨htype, hlabel⟩
    | some label =>
      refine .plain (fun h => ?_) fun _ h => h.actionType htype
      rw [h.2] at hlabel
      cases hlabel
  | some actionType =>
    have hdefined : ¬a.IsUndefined := fun h => by
      rw [h.1] at htype
      cases htype
    cases htarget : given? a.target with
    | none =>
      rw [description, codeLine, htype, htarget]
      exact .plain hdefined fun _ h => h.target htarget
    | some target =>
      rw [description, codeLine, htype, htarget]
      cases hparameters : given? a.parameters with
      | none =>
        simp only [String.append_empty]
        refine .plain hdefined fun _ h => ?_
        rw [h.parameters] at hparameters
        cases hparameters
      | some parameters =>
        simp only [← String.append_assoc]
        refine .listed ⟨?_, ?_, hparameters⟩
        · rw [htype]
          exact Option.some_ne_none _
        · rw [htarget]
          exact Option.some_ne_none _

end Action

namespace Graph

variable {g : Graph} {inputs : Inputs} {e : Evaluation}

/-- An action step reports the action that its identifier means. -/
theorem action_of_step (h : g.evaluate inputs = .ok e) {s : Step} (hs : s ∈ e.steps) (hvisit : s.visit = .action) :
    ∃ a, g.block? s.node = some (.action a) ∧ s.description = a.description := by
  obtain hcycle | ⟨n, hn, henter⟩ := enter_of_evaluate h hs
  · rw [hcycle] at hvisit
    cases hvisit
  obtain ⟨a, ha, heq⟩ | ⟨c, passed, -, -, heq⟩ | ⟨o, passed, -, -, heq⟩ := enter_cases g inputs henter
  · refine ⟨a, ?_, congrArg Step.description heq⟩
    rw [block?_of_node? hn, ha]
  · rw [heq] at hvisit
    cases hvisit
  · rw [heq] at hvisit
    cases hvisit

theorem codeLines_action (hsome : g.conditions ≠ []) {i : Nat} {id : String} {a : Action}
    (ha : g.actions[i]? = some (id, a)) : g.codeLines[2 * g.conditions.length + 1 + i]? = some a.codeLine := by
  have hi : i < g.actions.length := (List.getElem?_eq_some_iff.1 ha).1
  have hactions : g.actions.isEmpty = false := List.isEmpty_eq_false_iff.2 (List.ne_nil_of_length_pos (by omega))
  rw [Nat.add_assoc, codeLines_ending hsome, codeEnding, hactions, if_neg Bool.false_ne_true, List.cons_append,
    Nat.add_comm 1 i, List.getElem?_cons_succ, List.getElem?_append_left (by rwa [List.length_map]),
    List.getElem?_map, ha]
  rfl

/-- In a rule with conditions, what an evaluation reports stands on a line after `THEN`. It is the line of the action that
the step is of, in that action's place among all of them, and follows from the report. The lines can be written unless
the value of some condition holds an integer that is too long, whether or not the evaluation comes to that condition. -/
theorem reports_are_shown (hsome : g.conditions ≠ []) (h : g.evaluate inputs = .ok e) :
    (g.codeLines? = none ↔ ∃ c ∈ g.conditions, c.2.value.hasLongInteger = true) ∧
    e.actions = (e.steps.filter Step.isAction).map (·.description) ∧
    ∀ lines, g.codeLines? = some lines →
      g.pseudocode = "\n".intercalate lines ∧ lines[2 * g.conditions.length]? = some "THEN" ∧
      ∀ s ∈ e.steps, s.visit = .action → ∃ a i line, g.block? s.node = some (.action a) ∧
        g.actions[i]? = some (s.node, a) ∧ lines[2 * g.conditions.length + 1 + i]? = some line ∧
        a.ShownBy s.description line := by
  refine ⟨codeLines?_eq_none_iff, (evaluate_reports h).1, ?_⟩
  intro lines hlines
  obtain ⟨-, rfl⟩ := codeLines?_eq_some_iff.1 hlines
  refine ⟨rfl, codeLines_ending hsome 0, ?_⟩
  intro s hs hvisit
  obtain ⟨a, hblock, hreport⟩ := action_of_step h hs hvisit
  obtain ⟨i, hi⟩ := List.mem_iff_getElem?.1 (mem_actions_of_block? hblock)
  refine ⟨a, i, a.codeLine, hblock, hi, codeLines_action hsome hi, ?_⟩
  rw [hreport]
  exact a.shownBy_codeLine

/-- An open door leads to two actions, one of which says nothing; a third cannot be reached. -/
def doorAlert : Graph where
  nodes :=
    [⟨"light", default, .action ⟨some "turn_on", some "light", none, none⟩⟩,
      ⟨"blank", default, .action ⟨none, none, none, some "New action"⟩⟩,
      ⟨"door", default, .condition ⟨some "door", none, some "equals", .int 1, none⟩⟩,
      ⟨"phone", default, .action ⟨some "send_alert", some "phone", some "loud", some "Alert"⟩⟩]
  edges := [⟨"", "door", "phone"⟩, ⟨"", "door", "blank"⟩, ⟨"", "light", "light"⟩]

def doorAlertEvaluation : Evaluation := .ofSteps
  [⟨"door", .condition true, "door equals 1", 0⟩, ⟨"phone", .action, "send alert: phone (loud)", 1⟩,
    ⟨"blank", .action, "Action not fully defined - click to edit", 1⟩]

def doorAlertLines : List String :=
  ["IF", "  door equals 1", "THEN", "  turn on: light", "  (Action not fully defined - click to edit)",
    "  send alert: phone with parameters (loud)", "END IF"]

theorem doorAlert_reports :
    doorAlert.conditions ≠ [] ∧ doorAlert.evaluate [("door", .text "1")] = .ok doorAlertEvaluation ∧
    doorAlert.codeLines? = some doorAlertLines ∧
    doorAlertEvaluation.actions = ["send alert: phone (loud)", "Action not fully defined - click to edit"] ∧
    (∃ a i line, doorAlert.actions[i]? = some ("phone", a) ∧ doorAlertLines[2 + 1 + i]? = some line ∧
      a.ShownBy "send alert: phone (loud)" line) ∧
    ∃ a i line, doorAlert.actions[i]? = some ("blank", a) ∧ doorAlertLines[2 + 1 + i]? = some line ∧
      a.ShownBy "Action not fully defined - click to edit" line := by
  have hsome : doorAlert.conditions ≠ [] := List.cons_ne_nil _ _
  have hrun : doorAlert.evaluate [("door", .text "1")] = .ok doorAlertEvaluation := by decide +kernel
  have hlines : doorAlert.codeLines? = some doorAlertLines := by decide +kernel
  obtain ⟨-, hactions, hshown⟩ := reports_are_shown hsome hrun
  obtain ⟨-, -, hsteps⟩ := hshown _ hlines
  refine ⟨hsome, hrun, hlines, hactions, ?_, ?_⟩
  · obtain ⟨a, i, line, -, h⟩ := hsteps ⟨"phone", .action, "send alert: phone (loud)", 1⟩ (by decide) rfl
    exact ⟨a, i, line, h⟩
  · obtain ⟨a, i, line, -, h⟩ :=
      hsteps ⟨"blank", .action, "Action not fully defined - click to edit", 1⟩ (by decide) rfl
    exact ⟨a, i, line, h⟩

/-- An open door, beside a condition that no evaluation comes to. -/
def countAside (count : Int) : Graph where
  nodes :=
    [⟨"door", default, .condition ⟨some "door", none, some "equals", .int 1, none⟩⟩,
      ⟨"count", default, .condition ⟨none, none, some "equals", .int count, none⟩⟩,
      ⟨"alarm", default, .action ring⟩]
  edges := [⟨"", "door", "alarm"⟩, ⟨"", "count", "count"⟩]

/-- With a count of 4301 digits the alarm goes off, and there is no pseudocode. -/
theorem countAside_not_shown :
    (countAside (Number.tenPow 4300)).conditions ≠ [] ∧
    (countAside (Number.tenPow 4300)).evaluate [("door", .int 1)] =
      .ok (.ofSteps [⟨"door", .condition true, "door equals 1", 0⟩, ⟨"alarm", .action, "Ring", 1⟩]) ∧
    (countAside (Number.tenPow 4300)).codeLines? = none :=
  ⟨List.cons_ne_nil _ _, by decide +kernel, by decide +kernel⟩

end Graph

end BlockRules
