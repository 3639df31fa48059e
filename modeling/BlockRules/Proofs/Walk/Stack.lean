import BlockRules.Evaluation.Branch
import BlockRules.Proofs.Gathering

set_option autoImplicit false

/-!
# The stack and the branches

A stack of waiting frames stands for the branches of its frames, one after the other. So the walk of
a stack is the recursion on blocks, and an evaluation is the list of the branches of its roots.
-/
namespace BlockRules.Graph
open Gathering

variable (g : Graph) (inputs : Inputs)

theorem enter_cases {id : String} {block : Block} {depth : Nat} {s : Step}
    (h : g.enter inputs id block depth = .ok s) :
    (∃ a, block = .action a ∧ s = ⟨id, .action, a.description, depth⟩) ∨
      (∃ c passed, block = .condition c ∧ c.test inputs = .ok passed ∧
        s = ⟨id, .condition passed, c.description, depth⟩) ∨
      ∃ o passed, block = .operator o ∧ g.operatorPasses inputs id o = .ok passed ∧
        s = ⟨id, .operator passed, o.resolvedType, depth⟩ := by
  cases block with
  | action a => exact .inl ⟨a, rfl, (Except.ok.inj h).symm⟩
  | condition c =>
    obtain ⟨passed, ht, hs⟩ := exists_of_map_ok h
    exact .inr (.inl ⟨c, passed, rfl, ht, hs.symm⟩)
  | operator o =>
    obtain ⟨passed, ht, hs⟩ := exists_of_map_ok h
    exact .inr (.inr ⟨o, passed, rfl, ht, hs.symm⟩)

theorem isAction_of_enter {id : String} {block : Block} {depth : Nat} {s : Step}
    (h : g.enter inputs id block depth = .ok s) : s.isAction = block.isAction := by
  obtain ⟨a, rfl, rfl⟩ | ⟨c, passed, rfl, -, rfl⟩ | ⟨o, passed, rfl, -, rfl⟩ := enter_cases g inputs h <;> rfl

theorem branch_unknown {path : List String} {id : String} (h : g.node? id = none) :
    g.branch inputs path id = .ok [] := by
  rw [branch]
  split <;> simp_all

theorem branch_repeated {path : List String} {id : String} {n : Node}
    (h : g.node? id = some n) (hid : id ∈ path) :
    g.branch inputs path id = .ok [skip id path.length] := by
  rw [branch]
  split <;> simp_all

theorem branch_entered {path : List String} {id : String} {n : Node}
    (h : g.node? id = some n) (hid : id ∉ path) :
    g.branch inputs path id = (g.enter inputs id n.block path.length).bind fun s =>
      if s.visit.passes then ((g.outgoing id).flatMapM fun e => g.branch inputs (id :: path) e.target).map (s :: ·)
      else .ok [s] := by
  rw [branch]
  split
  · simp_all
  · rename_i m hm
    obtain rfl : m = n := Option.some.inj (hm.symm.trans h)
    rw [dif_neg hid, ← map_flatten_mapM]
    cases g.enter inputs id m.block path.length with
    | error e => rfl
    | ok s =>
      dsimp only [Except.bind]
      cases s.visit.passes with
      | false => rfl
      | true =>
        cases (g.outgoing id).mapM fun e => g.branch inputs (id :: path) e.target <;> rfl

theorem branch_passed {path : List String} {id : String} {n : Node} {s : Step}
    (hn : g.node? id = some n) (hid : id ∉ path)
    (hs : g.enter inputs id n.block path.length = .ok s) (hpass : s.visit.passes = true) :
    g.branch inputs path id =
      ((g.outgoing id).flatMapM fun e => g.branch inputs (id :: path) e.target).map (s :: ·) := by
  rw [branch_entered g inputs hn hid, hs]
  exact if_pos hpass

theorem branch_stopped {path : List String} {id : String} {n : Node} {s : Step}
    (hn : g.node? id = some n) (hid : id ∉ path)
    (hs : g.enter inputs id n.block path.length = .ok s) (hpass : ¬ s.visit.passes = true) :
    g.branch inputs path id = .ok [s] := by
  rw [branch_entered g inputs hn hid, hs]
  exact if_neg hpass

theorem branch_cases {path : List String} {id : String} {n : Node} {steps : List Step}
    (hn : g.node? id = some n) (hid : id ∉ path) (h : g.branch inputs path id = .ok steps) :
    ∃ s below, g.enter inputs id n.block path.length = .ok s ∧ steps = s :: below ∧
      (s.visit.passes = true ∧
          ((g.outgoing id).flatMapM fun e => g.branch inputs (id :: path) e.target) = .ok below ∨
        s.visit.passes = false ∧ below = []) := by
  rw [branch_entered g inputs hn hid] at h
  obtain ⟨s, hs, hrest⟩ := exists_of_bind_ok h
  by_cases hpass : s.visit.passes = true
  · rw [if_pos hpass] at hrest
    obtain ⟨below, hbelow, rfl⟩ := exists_of_map_ok hrest
    exact ⟨s, below, hs, rfl, .inl ⟨hpass, hbelow⟩⟩
  · rw [if_neg hpass] at hrest
    cases hrest
    exact ⟨s, [], hs, rfl, .inr ⟨Bool.eq_false_iff.2 hpass, rfl⟩⟩

/-- Induction along a branch that does not fail, with a case for each way in which its block is left. -/
theorem branch_induct {g : Graph} {inputs : Inputs}
    {motive : ∀ path id steps, g.branch inputs path id = .ok steps → Prop}
    (unknown : ∀ path id, g.node? id = none → ∀ h, motive path id [] h)
    (repeated : ∀ path id n, g.node? id = some n → id ∈ path →
      ∀ h, motive path id [skip id path.length] h)
    (stopped : ∀ path id n s, g.node? id = some n → id ∉ path →
      g.enter inputs id n.block path.length = .ok s → ¬ s.visit.passes = true →
      ∀ h, motive path id [s] h)
    (passed : ∀ path id n s below, g.node? id = some n → id ∉ path →
      g.enter inputs id n.block path.length = .ok s → s.visit.passes = true →
      ((g.outgoing id).flatMapM fun e => g.branch inputs (id :: path) e.target) = .ok below →
      (∀ e ∈ g.outgoing id, ∀ steps h, motive (id :: path) e.target steps h) →
      ∀ h, motive path id (s :: below) h)
    (path : List String) (id : String) (steps : List Step)
    (h : g.branch inputs path id = .ok steps) : motive path id steps h := by
  induction path, id using branch.induct g inputs generalizing steps with
  | case1 path id hn =>
    cases (branch_unknown g inputs hn).symm.trans h
    exact unknown path id hn h
  | case2 path id n hn hid =>
    cases (branch_repeated g inputs hn hid).symm.trans h
    exact repeated path id n hn hid h
  | case3 path id n hn hid err he =>
    have hfails := h
    rw [branch_entered g inputs hn hid, he] at hfails
    cases hfails
  | case4 path id n hn hid s hs hpass ih =>
    have hsteps := h
    rw [branch_passed g inputs hn hid hs hpass] at hsteps
    obtain ⟨below, hbelow, rfl⟩ := exists_of_map_ok hsteps
    exact passed path id n s below hn hid hs hpass hbelow (fun e _ => ih e) h
  | case5 path id n hn hid s hs hpass =>
    cases (branch_stopped g inputs hn hid hs hpass).symm.trans h
    exact stopped path id n s hn hid hs hpass h

variable {g inputs} {s t : WalkState}

/-- Frames are as deep as their paths are long, and the actions so far are those of the steps so far. -/
structure Coherent (s : WalkState) : Prop where
  depths : ∀ f ∈ s.stack, f.path.length = f.depth
  actions : s.actions = (Evaluation.ofSteps s.steps).actions

theorem coherent_walkStart (id : String) : Coherent (walkStart id) :=
  ⟨List.forall_mem_singleton.2 rfl, rfl⟩

theorem ofSteps_concat_actions {steps : List Step} {s : Step} :
    (Evaluation.ofSteps (steps ++ [s])).actions =
      (Evaluation.ofSteps steps).actions ++ if s.isAction then [s.description] else [] := by
  rw [Evaluation.ofSteps_append]
  cases h : s.isAction <;> simp [Evaluation.ofSteps, Evaluation.merge, h]

theorem Coherent.taken {f : Frame} {stack : List Frame} {steps : List Step} {actions : List String}
    (h : Coherent ⟨f :: stack, steps, actions⟩) (s : Step) :
    Coherent ⟨stack, steps ++ [s], actions ++ if s.isAction then [s.description] else []⟩ :=
  ⟨(List.forall_mem_cons.1 h.depths).2, (congrArg (· ++ _) h.actions).trans ofSteps_concat_actions.symm⟩

theorem Turns.coherent (hturns : g.Turns inputs s t) (h : Coherent s) : Coherent t := by
  cases hturns with
  | unknown unknown => exact ⟨(List.forall_mem_cons.1 h.depths).2, h.actions⟩
  | repeated known onPath => simpa [skip, Step.isAction] using h.taken (skip _ _)
  | @fired f stack steps actions n s known new entered acts =>
    simpa [isAction_of_enter g inputs entered, acts] using h.taken s
  | @stopped f stack steps actions n s known new entered tests closed =>
    simpa [isAction_of_enter g inputs entered, tests] using h.taken s
  | @passed f stack steps actions n s known new entered tests opened =>
    have htaken : Coherent ⟨stack, steps ++ [s], actions⟩ := by
      simpa [isAction_of_enter g inputs entered, tests] using h.taken s
    refine ⟨List.forall_mem_append.2 ⟨fun child hchild => ?_, htaken.depths⟩, htaken.actions⟩
    obtain ⟨e, -, rfl⟩ := List.mem_map.1 hchild
    exact congrArg (· + 1) (List.forall_mem_cons.1 h.depths).1

/-- The branch that a frame waits for. -/
def frameBranch (g : Graph) (inputs : Inputs) (f : Frame) : Except ComparisonError (List Step) :=
  g.branch inputs f.path f.id

/-- The steps so far, and then the branches of the frames that wait. -/
def foreseen (g : Graph) (inputs : Inputs) (s : WalkState) : Except ComparisonError (List Step) :=
  (s.stack.flatMapM (g.frameBranch inputs)).map (s.steps ++ ·)

theorem foreseen_taken {f : Frame} {s : Step} (h : g.frameBranch inputs f = .ok [s]) (stack : List Frame)
    (steps : List Step) (actions actions' : List String) :
    g.foreseen inputs ⟨f :: stack, steps, actions⟩ = g.foreseen inputs ⟨stack, steps ++ [s], actions'⟩ := by
  rw [foreseen, List.flatMapM_cons, h, foreseen]
  cases stack.flatMapM (g.frameBranch inputs) with
  | error e => rfl
  | ok rest => exact congrArg Except.ok (List.append_cons steps s rest)

theorem not_passes_of_isAction {id : String} {block : Block} {depth : Nat} {s : Step}
    (h : g.enter inputs id block depth = .ok s) (hacts : block.isAction = true) : ¬s.visit.passes = true := by
  obtain ⟨a, rfl, rfl⟩ | ⟨c, passed, rfl, -⟩ | ⟨o, passed, rfl, -⟩ := enter_cases g inputs h
  · exact Bool.false_ne_true
  · cases hacts
  · cases hacts

/-- A turn changes nothing about what is foreseen. -/
theorem Turns.foreseen_eq (hturns : g.Turns inputs s t) (h : Coherent s) :
    g.foreseen inputs s = g.foreseen inputs t := by
  cases hturns with
  | @unknown f stack steps actions unknown =>
    rw [foreseen, List.flatMapM_cons, frameBranch, branch_unknown g inputs unknown, foreseen]
    cases stack.flatMapM (g.frameBranch inputs) <;> rfl
  | repeated known onPath =>
    refine foreseen_taken ?_ _ _ _ _
    rw [frameBranch, branch_repeated g inputs known onPath, (List.forall_mem_cons.1 h.depths).1]
  | fired known new entered acts =>
    have hclosed := not_passes_of_isAction entered acts
    rw [← (List.forall_mem_cons.1 h.depths).1] at entered
    exact foreseen_taken (branch_stopped g inputs known new entered hclosed) _ _ _ _
  | stopped known new entered tests closed =>
    rw [← (List.forall_mem_cons.1 h.depths).1] at entered
    exact foreseen_taken (branch_stopped g inputs known new entered closed) _ _ _ _
  -- The frames that are pushed stand in front of the stack, and the frames of an append are gathered apart.
  | @passed f stack steps actions n s known new entered tests opened =>
    rw [← (List.forall_mem_cons.1 h.depths).1] at entered
    rw [foreseen, List.flatMapM_cons, frameBranch, branch_passed g inputs known new entered opened]
    have hchildren : (g.children f).flatMapM (g.frameBranch inputs) =
        (g.outgoing f.id).flatMapM fun e => g.branch inputs (f.id :: f.path) e.target := flatMapM_map _ _ _
    rw [foreseen, flatMapM_append, hchildren]
    cases (g.outgoing f.id).flatMapM fun e => g.branch inputs (f.id :: f.path) e.target with
    | error e => rfl
    | ok below =>
      cases stack.flatMapM (g.frameBranch inputs) with
      | error e => rfl
      | ok rest => exact congrArg Except.ok (List.append_cons steps s (below ++ rest))

theorem Stops.eq_foreseen {result : Except ComparisonError Evaluation} (hstops : g.Stops inputs s result)
    (h : Coherent s) : result = (g.foreseen inputs s).map .ofSteps := by
  cases hstops with
  | @empty steps actions =>
    change _ = Except.ok (Evaluation.ofSteps (steps ++ []))
    obtain rfl : actions = (Evaluation.ofSteps steps).actions := h.actions
    rw [List.append_nil]
    rfl
  | failed known new fails =>
    rw [← (List.forall_mem_cons.1 h.depths).1] at fails
    rw [foreseen, List.flatMapM_cons, frameBranch, branch_entered g inputs known new, fails]
    rfl

/-- The loop comes to what is foreseen, with the actions of its steps. -/
theorem walk_eq_foreseen (h : Coherent s) : g.walk inputs s = (g.foreseen inputs s).map .ofSteps := by
  fun_induction walk g inputs s with
  | case1 s result hdone => exact (stops_of_done hdone).eq_foreseen h
  | case2 s t hnext ih =>
    have hturns := turns_of_next hnext
    rw [ih (hturns.coherent h), hturns.foreseen_eq h]

theorem walk_eq_branch (id : String) : g.walk inputs (walkStart id) = (g.branch inputs [] id).map .ofSteps := by
  have hone : g.foreseen inputs (walkStart id) = g.branch inputs [] id := by
    rw [foreseen, walkStart, List.flatMapM_cons, frameBranch]
    cases g.branch inputs [] id with
    | error e => rfl
    | ok steps => exact congrArg Except.ok (List.append_nil steps)
  rw [walk_eq_foreseen (coherent_walkStart id), hone]

variable (g inputs)

theorem walkFrom_eq (root : Node) :
    g.walkFrom inputs root = (g.branch inputs [] root.id).map Evaluation.ofSteps :=
  walk_eq_branch root.id

theorem foldlM_walkFrom (nodes : List Node) (result : Evaluation) :
    nodes.foldlM (fun result root => (g.walkFrom inputs root).map result.merge) result =
      (nodes.flatMapM fun root => g.branch inputs [] root.id).map fun steps =>
        result.merge (.ofSteps steps) := by
  induction nodes generalizing result with
  | nil => simp [Evaluation.ofSteps, Evaluation.merge, pure, Except.pure, Except.map]
  | cons root nodes ih =>
    rw [List.foldlM_cons, List.flatMapM_cons, walkFrom_eq]
    cases g.branch inputs [] root.id with
    | error e => rfl
    | ok steps =>
      change nodes.foldlM _ (result.merge (.ofSteps steps)) = _
      rw [ih]
      cases nodes.flatMapM fun root => g.branch inputs [] root.id with
      | error e => rfl
      | ok rest =>
        change Except.ok ((result.merge (.ofSteps steps)).merge (.ofSteps rest)) =
          Except.ok (result.merge (.ofSteps (steps ++ rest)))
        rw [Evaluation.merge_assoc, Evaluation.ofSteps_append]

/-- An evaluation lists the branches of the roots, or fails as the first branch that fails. -/
theorem evaluate_eq_flatMapM :
    g.evaluate inputs =
      (g.roots.flatMapM fun root => g.branch inputs [] root.id).map Evaluation.ofSteps := by
  rw [evaluate, foldlM_walkFrom]
  simp only [Evaluation.empty_merge]

theorem evaluate_eq_branches : g.evaluate inputs = g.branches inputs := by
  rw [evaluate_eq_flatMapM, branches, ← map_flatten_mapM]
  cases g.roots.mapM fun root => g.branch inputs [] root.id <;> rfl

end BlockRules.Graph
