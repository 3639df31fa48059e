import BlockRules.Proofs.Wording.JoinWord
import BlockRules.Wording.Preview

set_option autoImplicit false

/-!
# The conditions in both views

A rule has a summary in one line and pseudocode in several. Where all conditions are filled in, both show the same
phrases in the same order with the same word between them; and an integer that is too long to be written keeps both
from being shown.
-/
namespace BlockRules

namespace Graph

variable {g : Graph}

theorem isShowable_iff : g.isShowable = true ↔ ∀ c ∈ g.conditions, c.2.value.hasLongInteger = false := by
  rw [isShowable, Bool.not_eq_true', List.any_eq_false]
  simp only [Bool.not_eq_true]

theorem codeLines?_eq_some_iff {lines : List String} :
    g.codeLines? = some lines ↔
      (∀ c ∈ g.conditions, c.2.value.hasLongInteger = false) ∧ g.codeLines = lines := by
  rw [← isShowable_iff, codeLines?]
  split <;> simp_all

theorem codeLines?_eq_none_iff : g.codeLines? = none ↔ ∃ c ∈ g.conditions, c.2.value.hasLongInteger = true := by
  rw [codeLines?, ite_eq_right_iff, ← not_imp_not]
  simp [isShowable_iff]

theorem length_conditionLines (g : Graph) : g.conditionLines.length = 2 * g.conditions.length - 1 := by
  rw [conditionLines, List.length_intersperse, List.length_map]

/-- The line of a condition follows two lines for each condition before it. -/
theorem codeLines_condition {i : Nat} {c : String × Condition} (hc : g.conditions[i]? = some c) :
    g.codeLines[2 * i + 1]? = some c.2.codeLine := by
  have hi : i < g.conditions.length := (List.getElem?_eq_some_iff.1 hc).1
  have hlength := g.length_conditionLines
  rw [codeLines_eq (List.ne_nil_of_length_pos (by omega)), List.cons_append, List.getElem?_cons_succ,
    List.getElem?_append_left (by omega), conditionLines, List.getElem?_intersperse_two_mul, List.getElem?_map, hc]
  rfl

theorem codeLines_word {i : Nat} (hi : i + 1 < g.conditions.length) :
    g.codeLines[2 * i + 2]? = some g.joinWord := by
  have hlength := g.length_conditionLines
  rw [codeLines_eq (List.ne_nil_of_length_pos (by omega)), List.cons_append, List.getElem?_cons_succ,
    List.getElem?_append_left (by omega), conditionLines,
    List.getElem?_intersperse_two_mul_add_one (by rwa [List.length_map])]

theorem codeLines_ending (h : g.conditions ≠ []) (i : Nat) :
    g.codeLines[2 * g.conditions.length + i]? = g.codeEnding[i]? := by
  have hpos := List.length_pos_iff.2 h
  have hlength : ("IF" :: g.conditionLines).length = 2 * g.conditions.length := by
    rw [List.length_cons, length_conditionLines]
    omega
  rw [codeLines_eq h, ← hlength, List.getElem?_append_right (Nat.le_add_right _ _), Nat.add_sub_cancel_left]

end Graph

theorem eq_of_given?_some {s t : String} (h : given? (some s) = some t) : s = t :=
  Option.some.inj (given?_eq_some.1 h).1

namespace Condition

/-- All that the views show of a condition is there: a field, a comparison with a phrase or none at all, and a value. -/
structure IsFilledIn (c : Condition) : Prop where
  field : ∃ field, given? c.field = some field
  operator : ∀ name, given? c.operator = some name → name ∈ comparisonPhrases.map (·.1)
  value : c.value ≠ .null ∧ c.value ≠ .text ""

/-- A condition in words: its field, the phrase of its comparison, which is `equals` if unset, and its value. -/
def ReadsAs (c : Condition) (words : String) : Prop :=
  ∃ field comparison, given? c.field = some field ∧
    comparisonPhrases.lookup ((given? c.operator).getD "equals") = some comparison ∧
    words = field ++ " " ++ comparison ++ " " ++ c.value.shown

variable {c : Condition}

theorem IsFilledIn.isUnset (h : c.IsFilledIn) : c.value.isUnset = false := by
  obtain ⟨hnull, hempty⟩ := h.value
  unfold Value.isUnset
  split
  · exact absurd ‹_› hnull
  · rename_i s hs
    exact beq_eq_false_iff_ne.2 fun hs' => hempty (hs' ▸ hs)
  · rfl

theorem IsFilledIn.exists_comparison (h : c.IsFilledIn) :
    ∃ comparison, comparisonPhrases.lookup ((given? c.operator).getD "equals") = some comparison := by
  have hall : ∀ name ∈ comparisonPhrases.map (·.1), (comparisonPhrases.lookup name).isSome = true := by decide
  cases hoperator : given? c.operator with
  | none => exact ⟨"equals", rfl⟩
  | some name => exact Option.isSome_iff_exists.1 (hall name (h.operator name hoperator))

theorem IsFilledIn.readsAs_summary (h : c.IsFilledIn) : c.ReadsAs c.summary := by
  obtain ⟨field, hfield⟩ := h.field
  obtain ⟨comparison, hcomparison⟩ := h.exists_comparison
  refine ⟨field, comparison, hfield, hcomparison, ?_⟩
  rw [summary, hfield, h.isUnset, phrase, hcomparison, Option.getD_some]

theorem IsFilledIn.codeLine_eq (h : c.IsFilledIn) : c.codeLine = indent c.summary := by
  obtain ⟨field, hfield⟩ := h.field
  obtain ⟨comparison, hcomparison⟩ := h.exists_comparison
  have hinput : given? c.input? = some field := by
    rw [input?, hfield]
    exact given?_eq_some.2 ⟨rfl, (given?_eq_some.1 hfield).2⟩
  rw [codeLine, summary, hfield, hinput, h.isUnset, phrase, hcomparison]
  rfl

end Condition

namespace Graph

variable {g : Graph}

theorem eq_summary_of_eq_some {text : String} (h : g.summary? = some text) : g.summary = text := by
  rw [summary?] at h
  split at h
  · cases h
  · exact Option.some.inj h

theorem summary?_eq_none_iff (hfields : ∀ c ∈ g.conditions, ∃ field, given? c.2.field = some field) :
    g.summary? = none ↔ ∃ c ∈ g.conditions, c.2.value.hasLongInteger = true := by
  have hlong : g.summaryIsLong = true ↔ ∃ c ∈ g.conditions, c.2.value.hasLongInteger = true := by
    rw [summaryIsLong, List.any_eq_true]
    refine exists_congr fun c => and_congr_right fun hc => ?_
    obtain ⟨field, hfield⟩ := hfields c hc
    rw [Condition.summaryIsLong, hfield, Option.isSome_some, Bool.true_and]
  rw [← hlong, summary?]
  split <;> simp_all

/-- Lines that show some conditions between `IF` and `THEN`: each indented on a line of its own, and a word on a line
between each two. -/
structure AreChained (word : String) (conditions lines : List String) : Prop where
  first : lines[0]? = some "IF"
  condition : ∀ i words, conditions[i]? = some words → lines[2 * i + 1]? = some (indent words)
  between : ∀ i, i + 1 < conditions.length → lines[2 * i + 2]? = some word
  last : lines[2 * conditions.length]? = some "THEN"

theorem areChained_codeLines (h : g.conditions ≠ []) (hfilled : ∀ c ∈ g.conditions, c.2.IsFilledIn) :
    AreChained g.joinWord (g.conditions.map fun c => c.2.summary) g.codeLines where
  first := by rw [codeLines_eq h]; rfl
  condition := by
    intro i words hwords
    obtain ⟨c, hc, rfl⟩ := Option.map_eq_some_iff.1 (List.getElem?_map .. ▸ hwords)
    rw [codeLines_condition hc, (hfilled c (List.mem_of_getElem? hc)).codeLine_eq]
  between := fun i hi => codeLines_word (by rwa [List.length_map] at hi)
  last := by
    rw [List.length_map]
    exact codeLines_ending h 0

/-- Where all conditions of a rule are filled in, both views show the same conditions, in order and with the same word
between each two: the summary on its line after `IF`, and the pseudocode on lines of their own between `IF` and
`THEN`. A rule without conditions shows none in either view. Neither view is shown where the value of a condition holds
an integer that is too long to be written. -/
theorem views_show_conditions {g : Graph} (hfilled : ∀ c ∈ g.conditions, c.2.IsFilledIn) :
    (g.summary? = none ↔ ∃ c ∈ g.conditions, c.2.value.hasLongInteger = true) ∧
    (g.codeLines? = none ↔ ∃ c ∈ g.conditions, c.2.value.hasLongInteger = true) ∧
    ∀ text lines, g.summary? = some text → g.codeLines? = some lines →
      g.pseudocode = "\n".intercalate lines ∧
      (g.conditions = [] → text ∈ [emptyRuleText, noContentText, g.actionSummary] ∧
        lines[0]? = some "(No conditions defined)") ∧
      (g.conditions ≠ [] → ∃ (word : String) (conditions : List String),
        List.Forall₂ (fun c words => c.2.ReadsAs words) g.conditions conditions ∧
        text = "IF " ++ (" " ++ word ++ " ").intercalate conditions ++
          (if g.actions.isEmpty then "" else " " ++ g.actionSummary) ∧
        AreChained word conditions lines) := by
  refine ⟨summary?_eq_none_iff fun c hc => (hfilled c hc).field, codeLines?_eq_none_iff, ?_⟩
  intro text lines htext hlines
  obtain ⟨-, rfl⟩ := codeLines?_eq_some_iff.1 hlines
  obtain rfl := eq_summary_of_eq_some htext
  refine ⟨rfl, fun hnone => ?_, fun hsome => ?_⟩
  · constructor
    · rw [summary, hnone]
      cases g.nodes.isEmpty <;> cases g.actions.isEmpty <;> simp
    · rw [codeLines, hnone]
      rfl
  · have hsummary := summary_eq_joined hsome
    rw [summaryJoinedBy] at hsummary
    refine ⟨g.joinWord, _, ?_, hsummary, ?_⟩
    · rw [List.forall₂_map_right_iff, List.forall₂_same]
      exact fun c hc => (hfilled c hc).readsAs_summary
    · exact areChained_codeLines hsome hfilled

def dampRoom : Graph where
  nodes :=
    [⟨"fan", default, .action ⟨some "turn_on", some "fan", none, none⟩⟩,
      ⟨"damp", default, .condition ⟨some "humidity", none, some "greaterThan", .int 70, none⟩⟩,
      ⟨"joint", default, .operator ⟨some "OR", none, none⟩⟩,
      ⟨"wet", default, .condition ⟨some "floor", none, none, .text "wet", none⟩⟩,
      ⟨"drying", default, .condition ⟨some "mode", none, some "contains", .list [.text "dry"], none⟩⟩]
  edges := []

def dampRoomLines : List String :=
  ["IF", "  humidity is greater than 70", "OR", "  floor equals wet", "OR", "  mode contains ['dry']", "THEN",
    "  turn on: fan", "END IF"]

theorem dampRoom_shown :
    (∀ c ∈ dampRoom.conditions, c.2.IsFilledIn) ∧
    dampRoom.summary? =
      some "IF humidity is greater than 70 OR floor equals wet OR mode contains ['dry'] THEN turn on fan" ∧
    dampRoom.codeLines? = some dampRoomLines ∧ dampRoom.conditions ≠ [] ∧
    dampRoom.pseudocode = "\n".intercalate dampRoomLines ∧
    ∃ word conditions, List.Forall₂ (fun c words => c.2.ReadsAs words) dampRoom.conditions conditions ∧
      AreChained word conditions dampRoomLines := by
  have hfilled : ∀ c ∈ dampRoom.conditions, c.2.IsFilledIn := by
    refine List.forall_mem_cons.2 ⟨?_, List.forall_mem_cons.2 ⟨?_, List.forall_mem_singleton.2 ?_⟩⟩
    · exact ⟨⟨_, rfl⟩, fun name h => eq_of_given?_some h ▸ by decide, nofun, nofun⟩
    · exact ⟨⟨_, rfl⟩, nofun, nofun, by simp⟩
    · exact ⟨⟨_, rfl⟩, fun name h => eq_of_given?_some h ▸ by decide, nofun, nofun⟩
  have hsummary : dampRoom.summary? =
      some "IF humidity is greater than 70 OR floor equals wet OR mode contains ['dry'] THEN turn on fan" := by
    decide +kernel
  have hlines : dampRoom.codeLines? = some dampRoomLines := by decide +kernel
  obtain ⟨-, -, hviews⟩ := views_show_conditions hfilled
  obtain ⟨hpseudocode, -, hshown⟩ := hviews _ _ hsummary hlines
  obtain ⟨word, conditions, hreads, -, hchained⟩ := hshown (List.cons_ne_nil _ _)
  exact ⟨hfilled, hsummary, hlines, List.cons_ne_nil _ _, hpseudocode, word, conditions, hreads, hchained⟩

def countAndDoor (count : Int) : Graph where
  nodes :=
    [⟨"count", default, .condition ⟨some "count", none, some "equals", .int count, none⟩⟩,
      ⟨"door", default, .condition ⟨some "door", none, none, .int 1, none⟩⟩]
  edges := []

theorem countAndDoor_filledIn (count : Int) : ∀ c ∈ (countAndDoor count).conditions, c.2.IsFilledIn := by
  refine List.forall_mem_cons.2 ⟨⟨⟨_, rfl⟩, fun name h => ?_, nofun, nofun⟩, List.forall_mem_singleton.2 ?_⟩
  · rw [← eq_of_given?_some h]
    decide
  · exact ⟨⟨_, rfl⟩, nofun, nofun, nofun⟩

/-- With a count of 4301 digits neither view is shown, although both conditions are filled in. -/
theorem longCount_not_shown :
    (∀ c ∈ (countAndDoor (Number.tenPow 4300)).conditions, c.2.IsFilledIn) ∧
      (countAndDoor (Number.tenPow 4300)).summary? = none ∧
      (countAndDoor (Number.tenPow 4300)).codeLines? = none :=
  ⟨countAndDoor_filledIn _, by decide +kernel, by decide +kernel⟩

end Graph

end BlockRules
