import BlockRules.Proofs.Walk.Firing
import Mathlib.Logic.Relation

set_option autoImplicit false

namespace BlockRules.Graph
open Relation

/-- An edge leads from one identifier to the next, and the first means a condition or operator that
passes. -/
def Gated (g : Graph) (inputs : Inputs) (id next : String) : Prop :=
  g.opens inputs id = true ∧ ∃ e ∈ g.edges, e.source = id ∧ e.target = next

theorem gatedWalk_of_leads {g : Graph} {inputs : Inputs} {id last : String} {places : List Nat}
    (h : g.Leads id places last) (hopens : ∀ x ∈ g.sourcesAt places, g.opens inputs x = true) :
    ReflTransGen (g.Gated inputs) id last := by
  induction places generalizing id with
  | nil =>
    obtain rfl : id = last := h
    exact .refl
  | cons place places ih =>
    obtain ⟨e, he, rfl, hrest⟩ := h
    rw [sourcesAt_cons he] at hopens
    refine .head ⟨hopens _ List.mem_cons_self, e, List.mem_of_getElem? he, rfl, rfl⟩ (ih hrest ?_)
    exact fun x hx => hopens x (List.mem_cons_of_mem _ hx)

theorem leads_from_source {g : Graph} {id last x : String} {places : List Nat}
    (h : g.Leads id places last) (hx : x ∈ g.sourcesAt places) :
    ∃ rest, rest.Sublist places ∧ g.Leads x rest last := by
  induction places generalizing id with
  | nil => cases hx
  | cons place places ih =>
    obtain ⟨e, he, rfl, hrest⟩ := h
    rw [sourcesAt_cons he] at hx
    obtain rfl | hx := List.mem_cons.1 hx
    · exact ⟨place :: places, List.Sublist.refl _, e, he, rfl, hrest⟩
    · obtain ⟨rest, hsub, hleads⟩ := ih hrest hx
      exact ⟨rest, hsub.cons place, hleads⟩

theorem IsRoute.from_source {g : Graph} {inputs : Inputs} {id last x : String} {places : List Nat}
    {a : Action} (h : g.IsRoute inputs id ⟨places, last, a⟩) (hx : x ∈ g.sourcesAt places) :
    ∃ rest, g.IsRoute inputs x ⟨rest, last, a⟩ := by
  obtain ⟨rest, hsub, hleads⟩ := leads_from_source h.leads hx
  have hsources : (g.sourcesAt rest).Sublist (g.sourcesAt places) := hsub.filterMap _
  have hopens : ∀ y ∈ g.sourcesAt rest, g.opens inputs y = true := fun y hy =>
    h.opens y (hsources.mem hy)
  exact ⟨rest, hleads, h.distinct.sublist hsources, hopens, h.action⟩

theorem exists_route_of_gatedWalk {g : Graph} {inputs : Inputs} {id last : String} {a : Action}
    (h : ReflTransGen (g.Gated inputs) id last) (ha : g.block? last = some (.action a)) :
    ∃ places, g.IsRoute inputs id ⟨places, last, a⟩ := by
  induction h using ReflTransGen.head_induction_on with
  | refl => exact ⟨[], rfl, List.nodup_nil, fun x hx => absurd hx List.not_mem_nil, ha⟩
  | head hstep _ ih =>
    obtain ⟨hopen, e, he, rfl, rfl⟩ := hstep
    obtain ⟨places, hroute⟩ := ih
    -- A route that comes back to where it starts is cut there.
    by_cases hmem : e.source ∈ g.sourcesAt places
    · exact hroute.from_source hmem
    · obtain ⟨place, hplace⟩ := List.mem_iff_getElem?.1 he
      refine ⟨place :: places, isRoute_iff.2 (.inr ⟨hopen, (e, place), ?_⟩)⟩
      exact ⟨mem_exits.2 ⟨hplace, rfl⟩, ⟨places, last, a⟩, rfl, hmem, hroute⟩

theorem exists_route_iff {g : Graph} {inputs : Inputs} {id last : String} :
    (∃ places a, g.IsRoute inputs id ⟨places, last, a⟩) ↔
      (∃ a, g.block? last = some (.action a)) ∧ ReflTransGen (g.Gated inputs) id last := by
  constructor
  · rintro ⟨places, a, h⟩
    exact ⟨⟨a, h.action⟩, gatedWalk_of_leads h.leads h.opens⟩
  · rintro ⟨⟨a, ha⟩, h⟩
    obtain ⟨places, hroute⟩ := exists_route_of_gatedWalk h ha
    exact ⟨places, a, hroute⟩

theorem exists_firing_iff {g : Graph} {inputs : Inputs} {id : String} :
    (∃ f ∈ g.firings inputs, f.route.id = id) ↔
      (∃ a, g.block? id = some (.action a)) ∧
        ∃ root ∈ g.roots, ReflTransGen (g.Gated inputs) root.id id := by
  constructor
  · rintro ⟨⟨i, places, last, a⟩, hf, rfl⟩
    obtain ⟨root, hroot, hroute⟩ := mem_firings.1 hf
    obtain ⟨haction, hwalk⟩ := exists_route_iff.1 ⟨places, a, hroute⟩
    exact ⟨haction, root, List.mem_of_getElem? hroot, hwalk⟩
  · rintro ⟨haction, root, hroot, hwalk⟩
    obtain ⟨places, a, hroute⟩ := exists_route_iff.2 ⟨haction, hwalk⟩
    obtain ⟨i, hi⟩ := List.mem_iff_getElem?.1 hroot
    exact ⟨⟨i, places, id, a⟩, mem_firings.2 ⟨root, hi, hroute⟩, rfl⟩

theorem exists_action_step_iff {g : Graph} {inputs : Inputs} {e : Evaluation}
    (h : g.evaluate inputs = .ok e) (id : String) :
    (∃ s ∈ e.steps, s.visit = .action ∧ s.node = id) ↔ ∃ f ∈ g.firings inputs, f.route.id = id := by
  have hmem : (∃ s ∈ e.steps.filter Step.isAction, s.node = id) ↔
      ∃ f ∈ g.firings inputs, f.route.id = id := by
    rw [(evaluate_actions h).2]
    simp only [List.mem_map, exists_exists_and_eq_and, Route.step]
  rw [← hmem]
  simp only [List.mem_filter, and_assoc, Step.isAction, beq_iff_eq]

theorem matched_iff {g : Graph} {inputs : Inputs} {e : Evaluation} (h : g.evaluate inputs = .ok e) :
    e.matched = true ↔ ∃ id, ∃ f ∈ g.firings inputs, f.route.id = id := by
  rw [(evaluate_report h).2]
  cases g.firings inputs <;> simp

/-- An action fires if and only if a walk from a root reaches it through blocks that pass. -/
theorem fires_iff_gatedWalk (g : Graph) (inputs : Inputs) {e : Evaluation}
    (h : g.evaluate inputs = .ok e) :
    (∀ id, (∃ s ∈ e.steps, s.visit = .action ∧ s.node = id) ↔
      (∃ a, g.block? id = some (.action a)) ∧
        ∃ root ∈ g.roots, ReflTransGen (g.Gated inputs) root.id id) ∧
    (e.matched = true ↔
      ∃ id, (∃ a, g.block? id = some (.action a)) ∧
        ∃ root ∈ g.roots, ReflTransGen (g.Gated inputs) root.id id) := by
  constructor
  · intro id
    rw [exists_action_step_iff h, exists_firing_iff]
  · rw [matched_iff h]
    exact exists_congr fun id => exists_firing_iff

theorem loopedAlarm_fires : loopedAlarm.evaluate loopedInputs = .ok loopedEvaluation ∧
    (∃ s ∈ loopedEvaluation.steps, s.visit = .action ∧ s.node = "alarm") ∧
    loopedEvaluation.matched = true ∧
    ∃ root ∈ loopedAlarm.roots, ReflTransGen (loopedAlarm.Gated loopedInputs) root.id "alarm" := by
  have h := fires_iff_gatedWalk loopedAlarm loopedInputs loopedAlarm_evaluate
  have hstep : ∃ s ∈ loopedEvaluation.steps, s.visit = .action ∧ s.node = "alarm" := by decide
  exact ⟨loopedAlarm_evaluate, hstep, by decide, ((h.1 "alarm").1 hstep).2⟩

end BlockRules.Graph
