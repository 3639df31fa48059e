import BlockRules.Proofs.Walk.Loose
import BlockRules.Wording.Pseudocode

set_option autoImplicit false

namespace BlockRules

namespace Text

theorem length_intercalate_cons (sep x : String) (xs : List String) :
    (sep.intercalate (x :: xs)).length = xs.length * sep.length + ((x :: xs).map String.length).sum := by
  induction xs generalizing x with
  | nil => simp
  | cons y ys ih =>
    rw [String.intercalate_cons_cons, String.length_append, String.length_append, ih]
    simp only [List.map_cons, List.sum_cons, List.length_cons, Nat.add_mul, Nat.one_mul]
    omega

/-- A joined text tells what it is joined by, once it has two parts. -/
theorem intercalate_injective {xs : List String} (hxs : 2 ≤ xs.length) {sep sep' : String}
    (h : sep.intercalate xs = sep'.intercalate xs) : sep = sep' := by
  obtain _ | ⟨x, _ | ⟨y, ys⟩⟩ := xs
  · exact absurd hxs (Nat.not_succ_le_zero 1)
  · exact absurd hxs (Nat.not_succ_le_self 1)
  -- The parts are as long on both sides, so the separators are too.
  have hlength := congrArg String.length h
  rw [length_intercalate_cons, length_intercalate_cons, Nat.add_right_cancel_iff] at hlength
  have hsep : sep.length = sep'.length := Nat.eq_of_mul_eq_mul_left (Nat.succ_pos _) hlength
  rw [String.intercalate_cons_cons, String.intercalate_cons_cons, String.append_assoc, String.append_assoc,
    String.append_right_inj] at h
  have hlist := congrArg String.toList h
  rw [String.toList_append, String.toList_append] at hlist
  exact String.toList_inj.1 (List.append_inj_left hlist hsep)

theorem word_of_joined {xs : List String} (hxs : 2 ≤ xs.length) {before after left right word word' : String}
    (h : before ++ (left ++ word ++ right).intercalate xs ++ after =
      before ++ (left ++ word' ++ right).intercalate xs ++ after) : word = word' := by
  rw [String.append_left_inj, String.append_right_inj] at h
  have hsep := intercalate_injective hxs h
  rwa [String.append_left_inj, String.append_right_inj] at hsep

theorem intercalate_intersperse (sep word : String) (xs : List String) :
    sep.intercalate (xs.intersperse word) = (sep ++ word ++ sep).intercalate xs := by
  induction xs with
  | nil => rfl
  | cons x xs ih =>
    cases xs with
    | nil => rfl
    | cons y ys =>
      have hrest : (y :: ys).intersperse word ≠ [] := by cases ys <;> exact List.cons_ne_nil _ _
      rw [List.intersperse_cons_cons, String.intercalate_cons_cons, String.intercalate_cons_of_ne_nil hrest, ih]
      rw [String.intercalate_cons_cons]
      simp only [String.append_assoc]

end Text

namespace Operator

/-- The type as the text views show it: as it is written, and `AND` where it is not. -/
def shownType (o : Operator) : String := (given? o.operatorType).getD "AND"

/-- The type is written in upper case, or the one that is applied instead is `AND`. -/
def IsShownAsApplied (o : Operator) : Prop :=
  match given? o.operatorType with
  | some type => Text.upper type = type
  | none => Text.upper ((given? o.legacyType).getD "AND") = "AND"

theorem shownType_eq_iff (o : Operator) : o.shownType = o.resolvedType ↔ o.IsShownAsApplied := by
  rw [shownType, resolvedType, IsShownAsApplied]
  cases given? o.operatorType with
  | none => exact eq_comm
  | some type => exact eq_comm

instance (o : Operator) : Decidable o.IsShownAsApplied := decidable_of_iff _ o.shownType_eq_iff

end Operator

namespace Graph

def summaryJoinedBy (g : Graph) (word : String) : String :=
  "IF " ++ (" " ++ word ++ " ").intercalate (g.conditions.map fun c => c.2.summary) ++
    if g.actions.isEmpty then "" else " " ++ g.actionSummary

def codeEnding (g : Graph) : List String :=
  "THEN" :: (if g.actions.isEmpty then [indent "(No actions defined)"] else g.actions.map fun a => a.2.codeLine) ++
    ["END IF"]

def pseudocodeJoinedBy (g : Graph) (word : String) : String :=
  "\n".intercalate ("IF" :: (g.conditions.map fun c => c.2.codeLine).intersperse word ++ g.codeEnding)

variable {g : Graph}

theorem summary_eq_joined (h : g.conditions ≠ []) : g.summary = g.summaryJoinedBy g.joinWord := by
  have hnodes : g.nodes.isEmpty = false := by
    refine List.isEmpty_eq_false_iff.2 fun hnil => h ?_
    rw [conditions, hnil, List.filterMap_nil]
  rw [summary, hnodes, List.isEmpty_eq_false_iff.2 h, summaryJoinedBy]
  cases g.actions.isEmpty <;> simp [conditionSummary, String.append_assoc]

theorem codeLines_eq (h : g.conditions ≠ []) : g.codeLines = "IF" :: g.conditionLines ++ g.codeEnding := by
  rw [codeLines, List.isEmpty_eq_false_iff.2 h, if_neg Bool.false_ne_true, List.append_assoc]
  rfl

theorem pseudocode_eq_joined (h : g.conditions ≠ []) : g.pseudocode = g.pseudocodeJoinedBy g.joinWord := by
  rw [pseudocode, codeLines_eq h]
  rfl

theorem summary_eq_iff (h : 2 ≤ g.conditions.length) {word : String} :
    g.summary = g.summaryJoinedBy word ↔ word = g.joinWord := by
  rw [summary_eq_joined (List.length_pos_iff.1 (by omega))]
  constructor
  · intro heq
    exact (Text.word_of_joined (by rwa [List.length_map]) heq).symm
  · rintro rfl
    rfl

theorem pseudocodeJoinedBy_eq (h : g.conditions ≠ []) (word : String) :
    g.pseudocodeJoinedBy word =
      "IF" ++ "\n" ++ ("\n" ++ word ++ "\n").intercalate (g.conditions.map fun c => c.2.codeLine) ++
        ("\n" ++ "\n".intercalate g.codeEnding) := by
  have hlines : (g.conditions.map fun c => c.2.codeLine).intersperse word ≠ [] := by
    rw [← List.length_pos_iff, List.length_intersperse, List.length_map]
    have := List.length_pos_iff.2 h
    omega
  have hending : g.codeEnding ≠ [] := List.cons_ne_nil _ _
  rw [pseudocodeJoinedBy, List.cons_append,
    String.intercalate_cons_of_ne_nil (List.append_ne_nil_of_left_ne_nil hlines _),
    String.intercalate_append_of_ne_nil hlines hending, Text.intercalate_intersperse]
  simp only [String.append_assoc]

theorem pseudocode_eq_iff (h : 2 ≤ g.conditions.length) {word : String} :
    g.pseudocode = g.pseudocodeJoinedBy word ↔ word = g.joinWord := by
  have hsome : g.conditions ≠ [] := List.length_pos_iff.1 (by omega)
  rw [pseudocode_eq_joined hsome]
  constructor
  · intro heq
    rw [pseudocodeJoinedBy_eq hsome, pseudocodeJoinedBy_eq hsome] at heq
    exact (Text.word_of_joined (by rwa [List.length_map]) heq).symm
  · rintro rfl
    rfl

/-- In a rule with two conditions or more and an operator, each text view has one word between the conditions, the
type of the first operator as it is written. It is the type that is applied if and only if it is written in upper
case, or is set nowhere, or only under its older name and there as `AND` in any case. -/
theorem joined_by_applied_iff (g : Graph) {id : String} {o : Operator} {rest : List (String × Operator)}
    (hfirst : g.operators = (id, o) :: rest) (hmany : 2 ≤ g.conditions.length) :
    (∀ word, (g.summary = g.summaryJoinedBy word ↔ word = o.shownType) ∧
      (g.pseudocode = g.pseudocodeJoinedBy word ↔ word = o.shownType)) ∧
    (o.shownType = o.resolvedType ↔ o.IsShownAsApplied) ∧
    (g.block? id = some (.operator o) → ∀ inputs e, g.evaluate inputs = .ok e →
      ∀ s ∈ e.steps, s.node = id → s.visit ≠ .cycle →
        s.description = o.resolvedType ∧ ∃ results, g.operandResults inputs id = .ok results ∧
          s.visit = .operator ((combineNamed o.resolvedType results).getD false)) := by
  have hword : g.joinWord = o.shownType := by rw [joinWord, hfirst, Operator.shownType]
  refine ⟨fun word => ?_, o.shownType_eq_iff, fun ho inputs e h s hs => operator_step ho h hs⟩
  rw [summary_eq_iff hmany, pseudocode_eq_iff hmany, hword]
  exact ⟨Iff.rfl, Iff.rfl⟩

def alarmBehind (o : Operator) : Graph where
  nodes :=
    [⟨"door", default, .condition ⟨some "door", none, some "===", .int 1, none⟩⟩,
      ⟨"window", default, .condition ⟨some "window", none, some "===", .int 1, none⟩⟩,
      ⟨"joint", default, .operator o⟩,
      ⟨"alarm", default, .action ring⟩]
  edges := [⟨"", "door", "joint"⟩, ⟨"", "window", "joint"⟩, ⟨"", "joint", "alarm"⟩]

/-- The rule with the door open and the window closed, behind an operator that one of them satisfies. -/
def halfOpenEvaluation : Evaluation := .ofSteps
  [⟨"door", .condition true, "door === 1", 0⟩, ⟨"joint", .operator true, "OR", 1⟩, ⟨"alarm", .action, "Ring", 2⟩,
    ⟨"window", .condition false, "window === 1", 0⟩]

def newerOr : Operator := ⟨some "OR", none, none⟩

def olderOr : Operator := ⟨none, some "OR", none⟩

theorem alarmBehind_newerOr :
    (alarmBehind newerOr).operators = [("joint", newerOr)] ∧ 2 ≤ (alarmBehind newerOr).conditions.length ∧
    newerOr.IsShownAsApplied ∧
    (alarmBehind newerOr).summary = (alarmBehind newerOr).summaryJoinedBy newerOr.resolvedType ∧
    (alarmBehind newerOr).pseudocode = (alarmBehind newerOr).pseudocodeJoinedBy newerOr.resolvedType ∧
    (alarmBehind newerOr).summary ≠ (alarmBehind newerOr).summaryJoinedBy "AND" ∧
    (alarmBehind newerOr).evaluate [("door", .int 1)] = .ok halfOpenEvaluation ∧
    ∃ results, (alarmBehind newerOr).operandResults [("door", .int 1)] "joint" = .ok results ∧
      Visit.operator true = .operator ((combineNamed newerOr.resolvedType results).getD false) := by
  have hfirst : (alarmBehind newerOr).operators = [("joint", newerOr)] := rfl
  have hmany : 2 ≤ (alarmBehind newerOr).conditions.length := by decide
  have hshown : newerOr.IsShownAsApplied := by decide +kernel
  have hrun : (alarmBehind newerOr).evaluate [("door", .int 1)] = .ok halfOpenEvaluation := by decide +kernel
  obtain ⟨hwords, happlied, hsteps⟩ := joined_by_applied_iff _ hfirst hmany
  have hresolved := (happlied.2 hshown).symm
  obtain ⟨-, hresults⟩ := hsteps rfl _ _ hrun ⟨"joint", .operator true, "OR", 1⟩ (by decide) rfl nofun
  refine ⟨hfirst, hmany, hshown, (hwords _).1.2 hresolved, (hwords _).2.2 hresolved, ?_, hrun, hresults⟩
  exact mt (hwords "AND").1.1 (by decide)

/-- The texts say that both must be open, and the alarm goes off with one. -/
theorem alarmBehind_olderOr :
    2 ≤ (alarmBehind olderOr).conditions.length ∧ (alarmBehind olderOr).operators = [("joint", olderOr)] ∧
    olderOr.resolvedType = "OR" ∧
    (alarmBehind olderOr).evaluate [("door", .int 1)] = .ok halfOpenEvaluation ∧
    (alarmBehind olderOr).summary = "IF door equals 1 AND window equals 1 THEN Ring" ∧
    (alarmBehind olderOr).summary ≠ (alarmBehind olderOr).summaryJoinedBy olderOr.resolvedType ∧
    (alarmBehind olderOr).pseudocode = "IF\n  door === 1\nAND\n  window === 1\nTHEN\n  Ring\nEND IF" ∧
    (alarmBehind olderOr).pseudocode ≠ (alarmBehind olderOr).pseudocodeJoinedBy olderOr.resolvedType := by
  decide +kernel

end Graph

end BlockRules
