import BlockRules.Proofs.Walk.Route
import Mathlib.Data.Set.Card

set_option autoImplicit false

/-!
# Firings

The actions that an evaluation reports are the ends of the routes from its roots, in order: one for
each place of a root and each list of places of edges that make a route.
-/
namespace BlockRules

/-- An occurrence of a root, and a route from it. -/
structure Firing where
  root : Nat
  route : Route

/-- The order of firings: by the place of the root, then lexicographically by the places of the
edges. -/
def Firing.Before (a b : Firing) : Prop :=
  a.root < b.root ∨ a.root = b.root ∧ a.route.places < b.route.places

namespace Graph
open Gathering

theorem passes_of_enter {g : Graph} {inputs : Inputs} {id : String} {n : Node} {depth : Nat}
    {s : Step} (h : g.node? id = some n) (hs : g.enter inputs id n.block depth = .ok s) :
    s.visit.passes = g.opens inputs id := by
  have hblock := block?_of_node? h
  obtain ⟨a, hb, rfl⟩ | ⟨c, passed, hb, ht, rfl⟩ | ⟨o, passed, hb, ht, rfl⟩ :=
    enter_cases g inputs hs
  · rw [opens, hblock, hb]
    rfl
  · rw [opens, hblock, hb]
    cases passed <;> simp [ht, Visit.passes]
  · rw [opens, hblock, hb]
    cases passed <;> simp [ht, Visit.passes]

theorem not_isAction_of_enter {g : Graph} {inputs : Inputs} {id : String} {block : Block}
    {depth : Nat} {s : Step} (hs : g.enter inputs id block depth = .ok s)
    (hb : ∀ a, block = .action a → False) : ¬ s.isAction = true := by
  obtain ⟨a, ha, -⟩ | ⟨c, passed, -, -, rfl⟩ | ⟨o, passed, -, -, rfl⟩ := enter_cases g inputs hs
  · exact (hb a ha).elim
  · exact Bool.false_ne_true
  · exact Bool.false_ne_true

/-- The action steps of a branch are the ends of the routes that keep off its path. -/
theorem branch_actions {g : Graph} {inputs : Inputs} {path : List String} {id : String}
    {steps : List Step} (h : g.branch inputs path id = .ok steps) :
    steps.filter Step.isAction = (g.routes inputs path id).map (Route.step path.length) := by
  fun_induction routes g inputs path id generalizing steps with
  | case1 path id hn =>
    rw [branch_unknown g inputs hn] at h
    cases h
    rfl
  | case2 path id n hn hid =>
    rw [branch_repeated g inputs hn hid] at h
    cases h
    rfl
  | case3 path id n hn hid a ha =>
    rw [branch_entered g inputs hn hid, ha] at h
    cases h
    rfl
  | case4 path id n hn hid hopen hb ih =>
    obtain ⟨s, below, hs, rfl, hbelow⟩ := branch_cases g inputs hn hid h
    rw [passes_of_enter hn hs, hopen] at hbelow
    obtain ⟨-, hbelow⟩ | ⟨hfalse, -⟩ := hbelow
    · have hparts : below.filter Step.isAction =
          (g.outgoing id).flatMap fun e => (g.routes inputs (id :: path) e.target).map (Route.step (path.length + 1)) :=
        filter_of_flatMapM hbelow fun e _ ys hys => ih (e, 0) hys
      rw [List.filter_cons_of_neg (not_isAction_of_enter hs hb), hparts]
      rw [← map_fst_exits, List.flatMap_map, List.map_flatMap]
      congr 1
      funext x
      rw [List.map_map]
      exact List.map_congr_left fun r _ => (Route.step_via path.length x.2 r).symm
    · cases hfalse
  | case5 path id n hn hid hopen hb =>
    obtain ⟨s, below, hs, rfl, hbelow⟩ := branch_cases g inputs hn hid h
    rw [passes_of_enter hn hs] at hbelow
    obtain ⟨hopens, -⟩ | ⟨-, rfl⟩ := hbelow
    · exact absurd hopens hopen
    · rw [List.filter_cons_of_neg (not_isAction_of_enter hs hb)]
      rfl

def IsFiring (g : Graph) (inputs : Inputs) (f : Firing) : Prop :=
  ∃ root, g.roots[f.root]? = some root ∧ g.IsRoute inputs root.id f.route

def firings (g : Graph) (inputs : Inputs) : List Firing :=
  g.roots.zipIdx.flatMap fun x => (g.routes inputs [] x.1.id).map (Firing.mk x.2)

theorem mem_firings {g : Graph} {inputs : Inputs} {f : Firing} :
    f ∈ g.firings inputs ↔ g.IsFiring inputs f := by
  constructor
  · intro hf
    obtain ⟨x, hx, hf⟩ := List.mem_flatMap.1 hf
    obtain ⟨r, hr, rfl⟩ := List.mem_map.1 hf
    exact ⟨x.1, List.mem_zipIdx_iff_getElem?.1 hx, ((mem_routes ..).1 hr).1⟩
  · rintro ⟨root, hroot, hr⟩
    have hlisted : f.route ∈ g.routes inputs [] root.id :=
      (mem_routes ..).2 ⟨hr, List.not_mem_nil, fun _ _ => List.not_mem_nil⟩
    refine List.mem_flatMap.2 ⟨(root, f.root), List.mem_zipIdx_iff_getElem?.2 hroot, ?_⟩
    exact List.mem_map.2 ⟨f.route, hlisted, rfl⟩

theorem firings_pairwise (g : Graph) (inputs : Inputs) :
    (g.firings inputs).Pairwise Firing.Before := by
  refine List.pairwise_flatMap.2 ⟨?_, ?_⟩
  · intro x _
    refine List.pairwise_map.2 ((g.routes_pairwise inputs [] x.1.id).imp ?_)
    intro r s hlt
    exact .inr ⟨rfl, hlt⟩
  · refine (zipIdx_pairwise_lt g.roots).imp ?_
    intro x y hlt a ha b hb
    obtain ⟨r, -, rfl⟩ := List.mem_map.1 ha
    obtain ⟨s, -, rfl⟩ := List.mem_map.1 hb
    exact .inl hlt

theorem evaluate_actions {g : Graph} {inputs : Inputs} {e : Evaluation}
    (h : g.evaluate inputs = .ok e) :
    e = .ofSteps e.steps ∧
      e.steps.filter Step.isAction = (g.firings inputs).map fun f => f.route.step 0 := by
  rw [evaluate_eq_flatMapM] at h
  obtain ⟨steps, hsteps, rfl⟩ := exists_of_map_ok h
  refine ⟨rfl, ?_⟩
  change steps.filter Step.isAction = _
  rw [filter_of_flatMapM hsteps fun root _ ys hys => branch_actions hys, firings, List.map_flatMap]
  -- The branches are listed by root, the firings by root and place.
  conv_lhs => rw [← List.zipIdx_map_fst 0 g.roots, List.flatMap_map]
  congr 1
  funext x
  rw [List.map_map]
  rfl

theorem evaluate_report {g : Graph} {inputs : Inputs} {e : Evaluation}
    (h : g.evaluate inputs = .ok e) :
    e.actions = (g.firings inputs).map (fun f => f.route.action.description) ∧
      e.matched = !(g.firings inputs).isEmpty := by
  obtain ⟨he, hactions⟩ := evaluate_actions h
  have htexts : e.actions = (e.steps.filter Step.isAction).map (·.description) :=
    congrArg Evaluation.actions he
  have hmatched : e.matched = !((e.steps.filter Step.isAction).map (·.description)).isEmpty :=
    congrArg Evaluation.matched he
  rw [htexts, hmatched, hactions, List.map_map, List.isEmpty_map]
  exact ⟨rfl, rfl⟩

theorem encard_of_nodup {α : Type} {xs : List α} {S : Set α} (hnodup : xs.Nodup)
    (h : ∀ x, x ∈ xs ↔ x ∈ S) : S.encard = xs.length := by
  classical
  have hS : S = xs.toFinset := by
    ext x
    rw [Finset.mem_coe, List.mem_toFinset, h]
  rw [hS, Set.encard_coe_eq_coe_finsetCard, List.toFinset_card_of_nodup hnodup]

theorem encard_isFiring {g : Graph} {inputs : Inputs} {id : String} {a : Action}
    (h : g.block? id = some (.action a)) :
    {p : Nat × List Nat | g.IsFiring inputs ⟨p.1, p.2, id, a⟩}.encard =
      (g.firings inputs).countP fun f => f.route.id == id := by
  rw [List.countP_eq_length_filter, ← List.length_map (fun f : Firing => (f.root, f.route.places))]
  apply encard_of_nodup
  · refine List.pairwise_map.2 (((g.firings_pairwise inputs).filter _).imp ?_)
    intro f f' hbefore heq
    obtain ⟨hroot, hplaces⟩ := Prod.mk.inj heq
    obtain hlt | ⟨-, hlt⟩ := hbefore
    · omega
    · rw [hplaces] at hlt
      exact List.lt_irrefl _ hlt
  · intro p
    simp only [List.mem_map, List.mem_filter, beq_iff_eq]
    constructor
    · rintro ⟨⟨root, places, last, b⟩, ⟨hf, rfl⟩, rfl⟩
      obtain ⟨n, hn, hroute⟩ := mem_firings.1 hf
      cases h.symm.trans hroute.action
      exact ⟨n, hn, hroute⟩
    · intro hf
      exact ⟨_, ⟨mem_firings.2 hf, rfl⟩, rfl⟩

/-- An evaluation that does not fail reports the firings, each once and in their order. -/
theorem actions_are_firings (g : Graph) (inputs : Inputs) {e : Evaluation}
    (h : g.evaluate inputs = .ok e) :
    (∃ firings : List Firing, firings.Pairwise Firing.Before ∧
      (∀ f, f ∈ firings ↔ g.IsFiring inputs f) ∧
      e.steps.filter Step.isAction = firings.map (fun f => f.route.step 0) ∧
      e.actions = firings.map fun f => f.route.action.description) ∧
    ∀ id a, g.block? id = some (.action a) →
      (e.steps.countP fun s => s.node == id && s.isAction : ℕ∞) =
        {p : Nat × List Nat | g.IsFiring inputs ⟨p.1, p.2, id, a⟩}.encard := by
  obtain ⟨he, hactions⟩ := evaluate_actions h
  refine ⟨⟨g.firings inputs, g.firings_pairwise inputs, fun f => mem_firings, hactions, ?_⟩, ?_⟩
  · have htexts : e.actions = (e.steps.filter Step.isAction).map (·.description) :=
      congrArg Evaluation.actions he
    rw [htexts, hactions, List.map_map]
    rfl
  · intro id a ha
    rw [encard_isFiring ha, ← List.countP_filter, hactions, List.countP_map]
    rfl

def ring : Action := ⟨none, none, none, some "Ring"⟩

/-- Two conditions behind an operator that is on a cycle with a third one, and from which two edges
lead to one action. -/
def loopedAlarm : Graph where
  nodes :=
    [⟨"door", default, .condition ⟨some "door", none, some "===", .int 1, none⟩⟩,
      ⟨"stove", default, .condition ⟨some "stove", none, some "===", .int 2, none⟩⟩,
      ⟨"either", default, .operator ⟨some "or", none, none⟩⟩,
      ⟨"still", default, .condition ⟨some "stove", none, some ">", .int 1, none⟩⟩,
      ⟨"alarm", default, .action ring⟩]
  edges :=
    [⟨"", "door", "either"⟩, ⟨"", "stove", "either"⟩, ⟨"", "either", "still"⟩,
      ⟨"", "still", "either"⟩, ⟨"", "either", "alarm"⟩, ⟨"", "either", "alarm"⟩]

def loopedInputs : Inputs := [("door", .int 1), ("stove", .int 2)]

def loopedEvaluation : Evaluation := .ofSteps
  [⟨"door", .condition true, "door === 1", 0⟩, ⟨"either", .operator true, "OR", 1⟩,
    ⟨"still", .condition true, "stove > 1", 2⟩, skip "either" 3,
    ⟨"alarm", .action, "Ring", 2⟩, ⟨"alarm", .action, "Ring", 2⟩,
    ⟨"stove", .condition true, "stove === 2", 0⟩, ⟨"either", .operator true, "OR", 1⟩,
    ⟨"still", .condition true, "stove > 1", 2⟩, skip "either" 3,
    ⟨"alarm", .action, "Ring", 2⟩, ⟨"alarm", .action, "Ring", 2⟩]

theorem loopedAlarm_evaluate : loopedAlarm.evaluate loopedInputs = .ok loopedEvaluation := by
  decide +kernel

theorem loopedAlarm_firings : loopedAlarm.evaluate loopedInputs = .ok loopedEvaluation ∧
    {p : Nat × List Nat |
      loopedAlarm.IsFiring loopedInputs ⟨p.1, p.2, "alarm", ring⟩}.encard = 4 := by
  refine ⟨loopedAlarm_evaluate, ?_⟩
  have h := (actions_are_firings loopedAlarm loopedInputs loopedAlarm_evaluate).2 "alarm" ring rfl
  have hcount : (loopedEvaluation.steps.countP fun s => s.node == "alarm" && s.isAction) = 4 := by
    decide
  rw [hcount] at h
  exact h.symm

end Graph

end BlockRules
