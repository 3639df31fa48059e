import BlockRules.Proofs.Cycle.Found
import BlockRules.Proofs.Rule.Warned
import BlockRules.Proofs.Walk.Alike
import BlockRules.Proofs.Walk.Ancestry

set_option autoImplicit false

/-!
# Blocks that are skipped

Walks and the search for cycles go over a rule each in its own way: walks along the edges out of blocks that pass,
with the path of each branch, the search along all edges between nodes, with what it has seen. But a walk comes
back to a block on its path only along such edges. So it skips only blocks on a cycle, and where it skips one the
search finds a cycle.
-/
namespace BlockRules

namespace Visit

theorem kind_eq_cycle_iff {v : Visit} : v.kind = "Cycle" ↔ v = .cycle := by
  cases v <;> simp [kind]

theorem outcome_eq_skipped_iff {v : Visit} : v.outcome = "SKIPPED" ↔ v = .cycle := by
  cases v with
  | condition passed | operator passed => cases passed <;> simp [outcome]
  | action => simp [outcome]
  | cycle => exact iff_of_true rfl rfl

end Visit

namespace Graph
open Relation Gathering

theorem exists_concludes (g : Graph) : ∃ s, g.SearchInvariant s ∧ g.Concludes s g.findCycle := by
  obtain ⟨n, -, hends⟩ := g.exists_ends g.searchStart fun id hid => hid
  rw [resume_searchStart] at hends
  exact hends.invariant g.searchInvariant_start

theorem not_transGen_of_findCycle {g : Graph} (h : g.findCycle = none) (a : String) :
    ¬ TransGen g.Linked a a := by
  obtain ⟨s, hinv, hconcludes⟩ := g.exists_concludes
  rw [h] at hconcludes
  cases hconcludes
  exact hinv.acyclic_of_end a

variable {g : Graph} {inputs : Inputs} {path : List String} {id : String}

/-- Where all blocks on its path lead to a block if that is a node, a branch skips only blocks on a cycle. -/
theorem transGen_of_branch_cycle {steps : List Step} (h : g.branch inputs path id = .ok steps)
    (hlead : g.hasNode id = true → ∀ a ∈ path, TransGen g.Linked a id) :
    ∀ s ∈ steps, s.visit = .cycle → TransGen g.Linked s.node s.node := by
  induction path, id, steps, h using branch_induct with
  | unknown => exact nofun
  | repeated path id n hn hid =>
    exact List.forall_mem_singleton.2 fun _ => hlead (hasNode_of_node? hn) id hid
  | stopped path id n s hn hid hs =>
    exact List.forall_mem_singleton.2 fun hcycle => absurd hcycle (enter_step hs).2.2
  | passed path id n s below hn hid hs hpass hbelow ih =>
    refine List.forall_mem_cons.2 ⟨fun hcycle => absurd hcycle (enter_step hs).2.2, fun s' hs' => ?_⟩
    obtain ⟨e, he, ys, hys, hmem⟩ := (mem_of_flatMapM_ok hbelow s').1 hs'
    refine ih e he ys hys (fun known => ?_) s' hmem
    obtain ⟨he, hsource⟩ := List.mem_filter.1 he
    -- The path grows by the block that passed, from which the edge leads on.
    have hlink : g.Linked id e.target := ⟨hasNode_of_node? hn, known, e, he, eq_of_beq hsource, rfl⟩
    refine List.forall_mem_cons.2 ⟨.single hlink, fun a ha => ?_⟩
    exact (hlead (hasNode_of_node? hn) a ha).tail hlink

theorem transGen_of_cycle_step {e : Evaluation} (h : g.evaluate inputs = .ok e) {s : Step} (hs : s ∈ e.steps)
    (hcycle : s.visit = .cycle) : TransGen g.Linked s.node s.node := by
  rw [evaluate_eq_flatMapM] at h
  obtain ⟨steps, hsteps, rfl⟩ := exists_of_map_ok h
  obtain ⟨root, -, ys, hys, hmem⟩ := (mem_of_flatMapM_ok hsteps s).1 hs
  exact transGen_of_branch_cycle hys (fun _ => nofun) s hmem hcycle

/-- A rule is warned of a cycle if and only if the search finds one. If it finds none, no evaluation skips a block;
and a block that an evaluation skips is on a cycle. -/
theorem skips_are_warned (g : Graph) (inputs : Inputs) {e : Evaluation} (h : g.evaluate inputs = .ok e) :
    (g.findCycle = none ↔ ∀ ids, .cycle ids ∉ g.validate.warnings) ∧
    (g.findCycle = none → ∀ s ∈ e.steps, s.visit.kind ≠ "Cycle" ∧ s.visit.outcome ≠ "SKIPPED") ∧
    ∀ s ∈ e.steps, s.visit.kind = "Cycle" ∨ s.visit.outcome = "SKIPPED" →
      TransGen g.Linked s.node s.node ∧ ∃ ids, .cycle ids ∈ g.validate.warnings := by
  have hwarned : ∀ ids, .cycle ids ∈ g.validate.warnings ↔ g.findCycle = some ids := fun ids => mem_warnings
  have hnone : g.findCycle = none → ∀ s ∈ e.steps, s.visit ≠ .cycle := fun hnone s hs hcycle =>
    not_transGen_of_findCycle hnone s.node (transGen_of_cycle_step h hs hcycle)
  simp only [ne_eq, Visit.kind_eq_cycle_iff, Visit.outcome_eq_skipped_iff, or_self, and_self, hwarned]
  refine ⟨Option.eq_none_iff_forall_ne_some, hnone, fun s hs hcycle => ?_⟩
  refine ⟨transGen_of_cycle_step h hs hcycle, Option.ne_none_iff_exists'.1 fun hfound => ?_⟩
  exact hnone hfound s hs hcycle

def forkedAlarm : Graph where
  nodes :=
    [⟨"door", default, .condition ⟨some "door", none, some "===", .int 1, none⟩⟩,
      ⟨"stove", default, .condition ⟨some "stove", none, some "===", .int 2, none⟩⟩,
      ⟨"alarm", default, .action ring⟩]
  edges := [⟨"", "door", "stove"⟩, ⟨"", "door", "alarm"⟩, ⟨"", "stove", "alarm"⟩]

def forkedEvaluation : Evaluation := .ofSteps
  [⟨"door", .condition true, "door === 1", 0⟩, ⟨"stove", .condition true, "stove === 2", 1⟩,
    ⟨"alarm", .action, "Ring", 2⟩, ⟨"alarm", .action, "Ring", 1⟩]

/-- The looped alarm skips a block and is warned of a cycle. The forked one has no cycle, and a block that it
comes to twice is not skipped. -/
theorem loopedAlarm_warned_forkedAlarm_not :
    (loopedAlarm.evaluate loopedInputs = .ok loopedEvaluation ∧ skip "either" 3 ∈ loopedEvaluation.steps ∧
      ∃ ids, .cycle ids ∈ loopedAlarm.validate.warnings) ∧
    forkedAlarm.evaluate loopedInputs = .ok forkedEvaluation ∧ forkedAlarm.findCycle = none ∧
      ∀ s ∈ forkedEvaluation.steps, s.visit.kind ≠ "Cycle" ∧ s.visit.outcome ≠ "SKIPPED" := by
  have hskip : skip "either" 3 ∈ loopedEvaluation.steps := by decide
  have hfork : forkedAlarm.evaluate loopedInputs = .ok forkedEvaluation := by decide +kernel
  have hnone : forkedAlarm.findCycle = none := by cbv
  obtain ⟨-, -, hwarned⟩ := skips_are_warned loopedAlarm loopedInputs loopedAlarm_evaluate
  obtain ⟨-, hvisits, -⟩ := skips_are_warned forkedAlarm loopedInputs hfork
  exact ⟨⟨loopedAlarm_evaluate, hskip, (hwarned _ hskip (.inl rfl)).2⟩, hfork, hnone, hvisits hnone⟩

end Graph

end BlockRules
