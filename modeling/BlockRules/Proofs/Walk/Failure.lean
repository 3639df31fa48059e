import BlockRules.Proofs.Comparison.Failure
import BlockRules.Proofs.Walk.Reach
import BlockRules.Proofs.Walk.Visit

set_option autoImplicit false

/-!
# Evaluations that fail

An evaluation fails at the first block that it enters and that fails: a condition whose comparison fails or
whose value is too long to be written, or an operator with an edge from a condition whose comparison fails.
The blocks that it enters are those that walks from the roots reach through blocks that pass.
-/
namespace BlockRules.Graph
open Relation Gathering

variable {g : Graph} {inputs : Inputs}

def OperandFails (g : Graph) (inputs : Inputs) (id : String) : Prop :=
  ∃ c, g.block? id = some (.condition c) ∧ ∃ e, c.Fails inputs e

def Fails (g : Graph) (inputs : Inputs) (id : String) : Prop :=
  match g.block? id with
  | some (.condition c) => (∃ e, c.Fails inputs e) ∨ c.value.hasLongInteger = true
  | some (.operator _) => ∃ edge ∈ g.incoming id, g.OperandFails inputs edge.source
  | _ => False

theorem exists_operandHolds_iff {id : String} :
    (∃ passed, g.operandHolds inputs id = .ok passed) ↔ ¬ g.OperandFails inputs id := by
  rw [operandHolds, OperandFails]
  split
  · rename_i c hc
    rw [Condition.exists_holds_iff, hc]
    simp
  · rename_i hother
    refine iff_of_true ⟨false, rfl⟩ ?_
    rintro ⟨c, hc, -⟩
    exact hother c hc

theorem exists_operatorPasses_iff {id : String} {o : Operator} :
    (∃ passed, g.operatorPasses inputs id o = .ok passed) ↔
      ¬ ∃ edge ∈ g.incoming id, g.OperandFails inputs edge.source := by
  rw [operatorPasses_eq, ← operandResults_eq, exists_map_ok_iff, operandResults, exists_mapM_ok_iff]
  simp only [exists_operandHolds_iff, not_exists, not_and]

theorem exists_enter_iff {id : String} {n : Node} (hn : g.node? id = some n) (depth : Nat) :
    (∃ s, g.enter inputs id n.block depth = .ok s) ↔ ¬ g.Fails inputs id := by
  rw [Fails, block?_of_node? hn]
  cases n.block with
  | action a => exact iff_of_true ⟨_, rfl⟩ not_false
  | condition c =>
    rw [enter, exists_map_ok_iff, Condition.exists_test_iff]
    simp
  | operator o => rw [enter, exists_map_ok_iff, exists_operatorPasses_iff]

/-- A step of a walk that keeps off a path. -/
def GatedOff (g : Graph) (inputs : Inputs) (path : List String) (id next : String) : Prop :=
  g.Gated inputs id next ∧ next ∉ path

/-- A walk that keeps off a path goes on from a last visit of where it starts. -/
theorem walkOff_cases {path : List String} {id last : String}
    (h : ReflTransGen (g.GatedOff inputs path) id last) :
    last = id ∨ ∃ next, g.GatedOff inputs (id :: path) id next ∧
      ReflTransGen (g.GatedOff inputs (id :: path)) next last := by
  induction h with
  | refl => exact .inl rfl
  | @tail mid last hwalk hstep ih =>
    by_cases hlast : last = id
    · exact .inl hlast
    have hoff : last ∉ id :: path := by
      rw [List.mem_cons, not_or]
      exact ⟨hlast, hstep.2⟩
    obtain rfl | ⟨next, hnext, hrest⟩ := ih
    · exact .inr ⟨last, ⟨hstep.1, hoff⟩, .refl⟩
    · exact .inr ⟨next, hnext, hrest.tail ⟨hstep.1, hoff⟩⟩

theorem forall_walkOff_iff {path : List String} {id : String} {P : String → Prop} :
    (∀ last, ReflTransGen (g.GatedOff inputs path) id last → P last) ↔
      P id ∧ ∀ next, g.GatedOff inputs (id :: path) id next →
        ∀ last, ReflTransGen (g.GatedOff inputs (id :: path)) next last → P last := by
  have hweaken : g.GatedOff inputs (id :: path) ≤ g.GatedOff inputs path :=
    fun _ _ h => ⟨h.1, fun hmem => h.2 (List.mem_cons_of_mem id hmem)⟩
  constructor
  · intro h
    refine ⟨h id .refl, fun next hnext last hwalk => h last ?_⟩
    exact .head (hweaken _ _ hnext) (ReflTransGen.mono hweaken _ _ hwalk)
  · rintro ⟨hid, hbelow⟩ last hwalk
    obtain rfl | ⟨next, hnext, hrest⟩ := walkOff_cases hwalk
    · exact hid
    · exact hbelow next hnext last hrest

/-- A branch has a result if and only if walks that keep off its path reach no block that fails. -/
theorem exists_branch_iff (path : List String) (id : String) :
    (∃ steps, g.branch inputs path id = .ok steps) ↔ (id ∉ path →
      ∀ last, ReflTransGen (g.GatedOff inputs path) id last → ¬ g.Fails inputs last) := by
  induction path, id using branch.induct g inputs with
  | case1 path id hn =>
    rw [branch_unknown g inputs hn, forall_walkOff_iff, Fails, block?_of_unknown hn]
    refine iff_of_true ⟨[], rfl⟩ fun _ => ⟨not_false, fun next hnext => ?_⟩
    exact absurd hnext.1.1 (by rw [opens_eq_false_of_unknown hn]; exact Bool.false_ne_true)
  | case2 path id n hn hid =>
    rw [branch_repeated g inputs hn hid]
    exact iff_of_true ⟨_, rfl⟩ fun hoff => absurd hid hoff
  | case3 path id n hn hid e he =>
    have hfails : g.Fails inputs id := by
      rw [← not_not (a := g.Fails inputs id), ← exists_enter_iff hn path.length, he]
      simp
    rw [branch_entered g inputs hn hid, he]
    refine iff_of_false ?_ fun h => h hid id .refl hfails
    rintro ⟨steps, h⟩
    cases h
  | case4 path id n hn hid s hs hpass ih =>
    have hreturns := (exists_enter_iff hn path.length).1 ⟨s, hs⟩
    have hopens : g.opens inputs id = true := (passes_of_enter hn hs).symm.trans hpass
    rw [branch_passed g inputs hn hid hs hpass, exists_map_ok_iff, exists_flatMapM_ok_iff]
    rw [forall_walkOff_iff]
    simp only [ih]
    constructor
    · rintro hbelow -
      refine ⟨hreturns, ?_⟩
      rintro next ⟨⟨-, e, he, rfl, rfl⟩, hoff⟩
      exact hbelow e (List.mem_filter.2 ⟨he, beq_self_eq_true _⟩) hoff
    · intro h e he hoff
      obtain ⟨he, hsource⟩ := List.mem_filter.1 he
      exact (h hid).2 e.target ⟨⟨hopens, e, he, eq_of_beq hsource, rfl⟩, hoff⟩
  | case5 path id n hn hid s hs hpass =>
    have hreturns := (exists_enter_iff hn path.length).1 ⟨s, hs⟩
    rw [branch_stopped g inputs hn hid hs hpass, forall_walkOff_iff]
    refine iff_of_true ⟨_, rfl⟩ fun _ => ⟨hreturns, fun next hnext => ?_⟩
    exact absurd ((passes_of_enter hn hs).trans hnext.1.1) hpass

theorem exists_evaluate_iff : (∃ e, g.evaluate inputs = .ok e) ↔
    ∀ root ∈ g.roots, ∀ id, ReflTransGen (g.Gated inputs) root.id id → ¬ g.Fails inputs id := by
  have hoff : g.GatedOff inputs [] = g.Gated inputs := by
    funext id next
    simp [GatedOff]
  rw [evaluate_eq_flatMapM, exists_map_ok_iff, exists_flatMapM_ok_iff]
  simp only [exists_branch_iff, hoff, List.not_mem_nil, not_false_eq_true, forall_true_left]

/-- A condition has a result unless its comparison fails, and does not hold if it orders something that is
not read as a number; a rule has a result unless a block fails that it enters. -/
theorem results_exist_iff (g : Graph) (c : Condition) (inputs : Inputs) :
    ((∃ passed, c.holds inputs = .ok passed) ↔ ∀ e, ¬ c.Fails inputs e) ∧
    (c.OrdersNaN inputs → (∀ e, ¬ c.Fails inputs e) → c.holds inputs = .ok false) ∧
    ((∃ e, g.evaluate inputs = .ok e) ↔
      ∀ root ∈ g.roots, ∀ id, ReflTransGen (g.Gated inputs) root.id id → ¬ g.Fails inputs id) :=
  ⟨Condition.exists_holds_iff, Condition.holds_eq_false_of_ordersNaN, exists_evaluate_iff⟩

def aboveOne : Condition := ⟨some "x", none, some ">", .int 1, none⟩

def hugeReading : Inputs := [("x", .int (Number.tenPow 309))]

/-- An integer of 310 digits is too large to be ordered, with nothing else wrong. -/
theorem aboveOne_hugeReading : aboveOne.holds hugeReading = .error .integerTooLarge ∧
    (Graph.mk [⟨"above", default, .condition aboveOne⟩] []).evaluate hugeReading =
      .error .integerTooLarge := by
  decide +kernel

end BlockRules.Graph
