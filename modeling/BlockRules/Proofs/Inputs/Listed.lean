import BlockRules.Proofs.Walk.Alike
import BlockRules.Rule.Validation
import Mathlib.Data.List.Basic

set_option autoImplicit false

namespace BlockRules

/-- Under each of some names, both have the same value or both have none. -/
def Inputs.AgreeOn (names : List String) (inputs inputs' : Inputs) : Prop :=
  ∀ name ∈ names, inputs'.lookup name = inputs.lookup name

namespace Condition

theorem holds_congr {c : Condition} {inputs inputs' : Inputs}
    (h : ∀ name, c.input? = some name → inputs'.lookup name = inputs.lookup name) :
    c.holds inputs' = c.holds inputs := by
  have hread : (c.input?.bind fun name => inputs'.lookup name) =
      c.input?.bind fun name => inputs.lookup name := by
    cases hc : c.input? with
    | none => rfl
    | some name => exact h name hc
  rw [holds, holds, hread]

theorem listedInput?_of_input? {c : Condition} {name : String} (h : c.input? = some name)
    (hne : name ≠ "") : c.listedInput? = some name := by
  have hgiven : given? c.input? = some name := given?_eq_some.2 ⟨h, hne⟩
  rw [listedInput?, hgiven]

end Condition

namespace Graph

theorem mem_inputNames {g : Graph} {name : String} :
    name ∈ g.inputNames ↔ ∃ c ∈ g.conditions, c.2.listedInput? = some name := by
  rw [inputNames, List.mem_eraseDups, List.mem_filterMap]

theorem holds_eq_of_agreeOn {g : Graph} {inputs inputs' : Inputs}
    (h : inputs.AgreeOn ("" :: g.inputNames) inputs') {id : String} {c : Condition}
    (hc : g.block? id = some (.condition c)) : c.holds inputs' = c.holds inputs := by
  apply Condition.holds_congr
  intro name hname
  by_cases hempty : name = ""
  · exact h name (hempty ▸ List.mem_cons_self)
  · have hlisted := Condition.listedInput?_of_input? hname hempty
    have hmem : name ∈ g.inputNames := mem_inputNames.2 ⟨_, mem_conditions_of_block? hc, hlisted⟩
    exact h name (List.mem_cons_of_mem _ hmem)

/-- Inputs that agree on what a rule lists and under the empty name have the same evaluation, or fail the
same way. -/
theorem evaluate_eq_of_agreeOn (g : Graph) {inputs inputs' : Inputs}
    (h : inputs.AgreeOn ("" :: g.inputNames) inputs') :
    g.evaluate inputs' = g.evaluate inputs := by
  have halike : Alike g g inputs inputs' :=
    { node?_eq := fun _ => rfl
      enter_eq := fun _ _ hn depth => enter_congr (fun _ _ hc => holds_eq_of_agreeOn h hc) hn depth
      knownTargets_eq := fun _ _ _ => rfl
      roots_eq := rfl }
  exact halike.evaluate_eq

/-- A lamp behind a condition on the light, one that names its input the older way, and one whose input has the
empty name; a fourth one has only a label. -/
def porch : Graph where
  nodes :=
    [⟨"dark", default, .condition ⟨some "light", none, some "<", .int 20, none⟩⟩,
      ⟨"home", default, .condition ⟨some "", some "presence", some "===", .bool true, none⟩⟩,
      ⟨"unnamed", default, .condition ⟨none, some "", some "contains", .text "on", none⟩⟩,
      ⟨"old", default, .condition ⟨none, none, some "==", .int 1, some "season is summer"⟩⟩,
      ⟨"all", default, .operator ⟨none, some "and", none⟩⟩,
      ⟨"lamp", default, .action ⟨some "turn_on", some "lamp", none, none⟩⟩]
  edges :=
    [⟨"", "dark", "all"⟩, ⟨"", "home", "all"⟩, ⟨"", "unnamed", "all"⟩, ⟨"", "all", "lamp"⟩]

def quietNight : Inputs := [("light", .int 5), ("presence", .bool true), ("", .text "on")]

def stormyNight : Inputs := ("wind", .int 90) :: quietNight ++ [("light", .int 80)]

theorem porch_inputNames : porch.inputNames = ["light", "presence", "season"] := by decide +kernel

theorem porch_ignores_wind : stormyNight.lookup "wind" = some (.int 90) ∧
    quietNight.lookup "wind" = none ∧
    quietNight.AgreeOn ("" :: porch.inputNames) stormyNight ∧
    porch.evaluate stormyNight = porch.evaluate quietNight ∧
    (porch.evaluate quietNight).map (·.actions) = .ok (List.replicate 3 "turn on: lamp") := by
  have hagree : quietNight.AgreeOn ("" :: porch.inputNames) stormyNight := by
    rw [porch_inputNames]
    intro name hname
    simp only [List.mem_cons, List.not_mem_nil, or_false] at hname
    rcases hname with rfl | rfl | rfl | rfl <;> rfl
  exact ⟨rfl, rfl, hagree, evaluate_eq_of_agreeOn porch hagree, by decide +kernel⟩

end Graph

end BlockRules
