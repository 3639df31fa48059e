import BlockRules.Proofs.Cycle.Skipped

set_option autoImplicit false

/-!
# Where warnings arise

A warning arises at a site: an end of an edge, a block, or the rule as a whole. The sites of a rule have an order,
and what makes one defective is said of the nodes and edges alone. Each defective site is warned of once, and the
warnings stand in the order of their sites.
-/
namespace BlockRules

/-- Edges and nodes are counted from the start, beginning with zero. -/
inductive Site where
  | source (edge : Nat)
  | target (edge : Nat)
  | condition (node : Nat)
  | action (node : Nat)
  | operator (node : Nat)
  | rule

namespace Site

def rank : Site → Nat × Nat
  | source i => (0, 2 * i)
  | target i => (0, 2 * i + 1)
  | condition i => (1, i)
  | action i => (2, i)
  | operator i => (3, i)
  | rule => (4, 0)

/-- Ends of edges come first, the source of an edge before its target, then conditions, actions, operators, and the
rule. -/
def Before (s t : Site) : Prop := s.rank.1 < t.rank.1 ∨ s.rank.1 = t.rank.1 ∧ s.rank.2 < t.rank.2

end Site

theorem filterMap_ne_nil_iff {α β : Type} {f : α → Option β} {xs : List α} :
    xs.filterMap f ≠ [] ↔ ∃ x ∈ xs, ∃ y, f x = some y := by
  rw [Ne, List.filterMap_eq_nil_iff]
  push Not
  simp only [Option.ne_none_iff_exists']

namespace Graph
open Relation Gathering

/-- A site is defective, and a warning says how. -/
inductive WarnedAt (g : Graph) : Site → Warning → Prop where
  | source {i : Nat} {e : Edge} (found : g.edges[i]? = some e) (unknown : ∀ n ∈ g.nodes, n.id ≠ e.source) :
    WarnedAt g (.source i) (.unknownEnd e e.source)
  | target {i : Nat} {e : Edge} (found : g.edges[i]? = some e) (unknown : ∀ n ∈ g.nodes, n.id ≠ e.target) :
    WarnedAt g (.target i) (.unknownEnd e e.target)
  | condition {i : Nat} {n : Node} {c : Condition} (found : g.nodes[i]? = some n) (block : n.block = .condition c)
    (loose : ∀ e ∈ g.edges, e.source ≠ n.id ∧ e.target ≠ n.id) (others : 1 < g.nodes.length) :
    WarnedAt g (.condition i) (.looseCondition n.id)
  | action {i : Nat} {n : Node} {a : Action} (found : g.nodes[i]? = some n) (block : n.block = .action a)
    (loose : ∀ e ∈ g.edges, e.source ≠ n.id ∧ e.target ≠ n.id)
    (conditional : ∃ m ∈ g.nodes, ∃ c, m.block = .condition c) :
    WarnedAt g (.action i) (.looseAction n.id)
  | operator {i : Nat} {n : Node} {o : Operator} (found : g.nodes[i]? = some n) (block : n.block = .operator o)
    (unsupported : o.resolvedType ∉ ["AND", "OR", "NOT", "XOR"]) :
    WarnedAt g (.operator i) (.unsupportedType n.id o.resolvedType)
  | rule {ids : List String} (cycle : g.IsCycle ids) : WarnedAt g .rule (.cycle ids)

variable {g : Graph} {id : String}

theorem hasNode_eq_false_iff : g.hasNode id = false ↔ ∀ n ∈ g.nodes, n.id ≠ id := by
  simp [hasNode]

theorem isConnected_eq_false_iff :
    g.isConnected id = false ↔ ∀ e ∈ g.edges, e.source ≠ id ∧ e.target ≠ id := by
  simp [isConnected]

theorem conditions_ne_nil_iff : g.conditions ≠ [] ↔ ∃ n ∈ g.nodes, ∃ c, n.block = .condition c := by
  refine filterMap_ne_nil_iff.trans (exists_congr fun n => and_congr_right fun _ => ?_)
  cases n.block <;> simp

theorem actions_ne_nil_iff : g.actions ≠ [] ↔ ∃ n ∈ g.nodes, ∃ a, n.block = .action a := by
  refine filterMap_ne_nil_iff.trans (exists_congr fun n => and_congr_right fun _ => ?_)
  cases n.block <;> simp

theorem ofName?_eq_none_iff {type : String} :
    Connective.ofName? type = none ↔ type ∉ ["AND", "OR", "NOT", "XOR"] := by
  rw [Connective.ofName?_eq]
  split_ifs <;> simp_all

theorem isCycle_of_findCycle {ids : List String} (h : g.findCycle = some ids) : g.IsCycle ids := by
  obtain ⟨s, hinv, hconcludes⟩ := g.exists_concludes
  rw [h] at hconcludes
  cases hconcludes with
  | cycle known onPath => exact hinv.isCycle known onPath

theorem findCycle_ne_none_iff : g.findCycle ≠ none ↔ ∃ a, TransGen g.Linked a a := by
  constructor
  · intro h
    obtain ⟨ids, hids⟩ := Option.ne_none_iff_exists'.1 h
    exact (isCycle_of_findCycle hids).transGen
  · rintro ⟨a, ha⟩ h
    exact not_transGen_of_findCycle h a ha

def reportsAlong {α : Type} (report : Nat → α → List (Site × Warning)) (xs : List α) : List (Site × Warning) :=
  xs.zipIdx.flatMap fun x => report x.2 x.1

/-- Reports of one kind, in order. -/
structure AreOfKind (kind : Nat) (reports : List (Site × Warning)) : Prop where
  kind_eq : ∀ r ∈ reports, r.1.rank.1 = kind
  ordered : reports.Pairwise fun r r' => r.1.rank.2 < r'.1.rank.2

section reportsAlong
variable {α : Type} {report : Nat → α → List (Site × Warning)} {xs : List α}

theorem mem_reportsAlong {r : Site × Warning} :
    r ∈ reportsAlong report xs ↔ ∃ i x, xs[i]? = some x ∧ r ∈ report i x := by
  simp only [reportsAlong, List.mem_flatMap, Prod.exists, List.mk_mem_zipIdx_iff_getElem?]
  exact exists_comm

theorem map_reportsAlong {warnings : α → List Warning} (h : ∀ i x, (report i x).map Prod.snd = warnings x) :
    (reportsAlong report xs).map Prod.snd = xs.flatMap warnings := by
  rw [reportsAlong, List.map_flatMap]
  conv_rhs => rw [← List.zipIdx_map_fst 0 xs, List.flatMap_map]
  exact List.flatMap_congr fun x _ => h x.2 x.1

theorem areOfKind_reportsAlong {kind : Nat} (hwithin : ∀ i x, AreOfKind kind (report i x))
    (hacross : ∀ i j x y, i < j → ∀ r ∈ report i x, ∀ r' ∈ report j y, r.1.rank.2 < r'.1.rank.2) :
    AreOfKind kind (reportsAlong report xs) where
  kind_eq := by
    intro r hr
    obtain ⟨i, x, -, hr⟩ := mem_reportsAlong.1 hr
    exact (hwithin i x).kind_eq r hr
  ordered := by
    refine List.pairwise_flatMap.2 ⟨fun x _ => (hwithin x.2 x.1).ordered, ?_⟩
    exact (zipIdx_pairwise_lt xs).imp fun {x y} hlt => hacross x.2 y.2 x.1 y.1 hlt

end reportsAlong

theorem pairwise_append_ofKind {kind : Nat} {earlier reports : List (Site × Warning)}
    (hpairwise : earlier.Pairwise fun r r' => r.1.Before r'.1) (hearlier : ∀ r ∈ earlier, r.1.rank.1 < kind)
    (h : AreOfKind kind reports) :
    (earlier ++ reports).Pairwise (fun r r' => r.1.Before r'.1) ∧
      ∀ r ∈ earlier ++ reports, r.1.rank.1 < kind + 1 := by
  constructor
  · refine List.pairwise_append.2 ⟨hpairwise, ?_, fun r hr r' hr' => .inl ?_⟩
    · refine h.ordered.imp_of_mem fun {r r'} hr hr' hlt => .inr ⟨?_, hlt⟩
      rw [h.kind_eq r hr, h.kind_eq r' hr']
    · rw [h.kind_eq r' hr']
      exact hearlier r hr
  · intro r hr
    obtain hr | hr := List.mem_append.1 hr
    · exact Nat.lt_succ_of_lt (hearlier r hr)
    · rw [h.kind_eq r hr]
      exact Nat.lt_succ_self kind

def endReports (g : Graph) (i : Nat) (e : Edge) : List (Site × Warning) :=
  ([(.source i, e.source), (.target i, e.target)].filter fun x => !g.hasNode x.2).map fun x =>
    (x.1, .unknownEnd e x.2)

theorem map_endReports : (reportsAlong g.endReports g.edges).map Prod.snd = g.unknownEnds := by
  refine map_reportsAlong fun i e => ?_
  rw [endReports, List.map_map]
  cases hsource : g.hasNode e.source <;> cases htarget : g.hasNode e.target <;> simp [hsource, htarget]

theorem mem_endReports {i : Nat} {e : Edge} {r : Site × Warning} :
    r ∈ g.endReports i e ↔ r = (.source i, .unknownEnd e e.source) ∧ g.hasNode e.source = false ∨
      r = (.target i, .unknownEnd e e.target) ∧ g.hasNode e.target = false := by
  simp only [endReports, List.mem_map, List.mem_filter, List.mem_cons, List.not_mem_nil, or_false, Bool.not_eq_true']
  constructor
  · rintro ⟨_, ⟨rfl | rfl, hunknown⟩, rfl⟩
    · exact .inl ⟨rfl, hunknown⟩
    · exact .inr ⟨rfl, hunknown⟩
  · rintro (⟨rfl, hunknown⟩ | ⟨rfl, hunknown⟩)
    · exact ⟨_, ⟨.inl rfl, hunknown⟩, rfl⟩
    · exact ⟨_, ⟨.inr rfl, hunknown⟩, rfl⟩

theorem areOfKind_endReports (g : Graph) : AreOfKind 0 (reportsAlong g.endReports g.edges) := by
  refine areOfKind_reportsAlong (fun i e => ⟨?_, ?_⟩) fun i j e e' hlt r hr r' hr' => ?_
  · intro r hr
    obtain ⟨rfl, -⟩ | ⟨rfl, -⟩ := mem_endReports.1 hr <;> rfl
  · have hends : [(Site.source i, e.source), (Site.target i, e.target)].Pairwise
        fun x y => x.1.rank.2 < y.1.rank.2 := by simp [Site.rank]
    exact List.pairwise_map.2 (hends.filter _)
  · obtain ⟨rfl, -⟩ | ⟨rfl, -⟩ := mem_endReports.1 hr <;> obtain ⟨rfl, -⟩ | ⟨rfl, -⟩ := mem_endReports.1 hr' <;>
      (simp only [Site.rank]; omega)

def blockReports (site : Nat → Site) (warning? : Node → Option Warning) (i : Nat) (n : Node) :
    List (Site × Warning) :=
  ((warning? n).map fun w => (site i, w)).toList

section blockReports
variable {site : Nat → Site} {warning? : Node → Option Warning} {nodes : List Node}

theorem mem_blockReports {r : Site × Warning} :
    r ∈ reportsAlong (blockReports site warning?) nodes ↔
      ∃ i n, nodes[i]? = some n ∧ warning? n = some r.2 ∧ r.1 = site i := by
  simp only [mem_reportsAlong, blockReports, Option.mem_toList, Option.map_eq_some_iff]
  refine exists₂_congr fun i n => and_congr_right fun _ => ?_
  constructor
  · rintro ⟨w, hw, rfl⟩
    exact ⟨hw, rfl⟩
  · rintro ⟨hw, hsite⟩
    exact ⟨r.2, hw, Prod.ext hsite.symm rfl⟩

theorem map_blockReports :
    (reportsAlong (blockReports site warning?) nodes).map Prod.snd = nodes.filterMap warning? := by
  rw [List.filterMap_eq_flatMap_toList]
  refine map_reportsAlong fun i n => ?_
  cases h : warning? n <;> simp [blockReports, h]

theorem areOfKind_blockReports {kind : Nat} (hrank : ∀ i, (site i).rank = (kind, i)) :
    AreOfKind kind (reportsAlong (blockReports site warning?) nodes) := by
  have hmem : ∀ i n, ∀ r ∈ blockReports site warning? i n, r.1.rank = (kind, i) := by
    intro i n r hr
    obtain ⟨w, -, rfl⟩ := Option.map_eq_some_iff.1 (Option.mem_toList.1 hr)
    exact hrank i
  refine areOfKind_reportsAlong (fun i n => ⟨fun r hr => by rw [hmem i n r hr], ?_⟩) ?_
  · cases h : warning? n <;> simp [blockReports, h]
  · intro i j n n' hlt r hr r' hr'
    rw [hmem i n r hr, hmem j n' r' hr']
    exact hlt

end blockReports

def looseCondition? (g : Graph) (n : Node) : Option Warning :=
  match n.block with
  | .condition _ => if !g.isConnected n.id && 1 < g.nodes.length then some (.looseCondition n.id) else none
  | _ => none

def looseAction? (g : Graph) (n : Node) : Option Warning :=
  match n.block with
  | .action _ => if !g.isConnected n.id && !g.conditions.isEmpty then some (.looseAction n.id) else none
  | _ => none

def unsupportedType? (n : Node) : Option Warning :=
  match n.block with
  | .operator o =>
    if (Connective.ofName? o.resolvedType).isNone then some (.unsupportedType n.id o.resolvedType) else none
  | _ => none

theorem map_filter_chosen {α : Type} {chosen? : Node → Option α} {isDefective : α → Bool} {warning : α → Warning}
    {warning? : Node → Option Warning} (h : ∀ n, ((chosen? n).filter isDefective).map warning = warning? n)
    (nodes : List Node) :
    ((nodes.filterMap chosen?).filter isDefective).map warning = nodes.filterMap warning? := by
  rw [List.filter_filterMap, List.map_filterMap]
  exact List.filterMap_congr fun n _ => h n

theorem looseConditions_eq (g : Graph) : g.looseConditions = g.nodes.filterMap g.looseCondition? := by
  refine map_filter_chosen (fun n => ?_) g.nodes
  rw [looseCondition?]
  cases n.block <;> simp [Option.filter, apply_ite]

theorem looseActions_eq (g : Graph) : g.looseActions = g.nodes.filterMap g.looseAction? := by
  refine map_filter_chosen (fun n => ?_) g.nodes
  rw [looseAction?]
  cases n.block <;> simp [Option.filter, apply_ite]

theorem unsupportedTypes_eq (g : Graph) : g.unsupportedTypes = g.nodes.filterMap unsupportedType? := by
  refine map_filter_chosen (fun n => ?_) g.nodes
  rw [unsupportedType?]
  cases n.block <;> simp [Option.filter, apply_ite]

theorem looseCondition?_eq_some_iff {n : Node} {w : Warning} :
    g.looseCondition? n = some w ↔ (∃ c, n.block = .condition c) ∧
      (∀ e ∈ g.edges, e.source ≠ n.id ∧ e.target ≠ n.id) ∧ 1 < g.nodes.length ∧ w = .looseCondition n.id := by
  rw [looseCondition?, ← isConnected_eq_false_iff]
  cases n.block <;> simp [and_assoc, @eq_comm _ w]

theorem looseAction?_eq_some_iff {n : Node} {w : Warning} :
    g.looseAction? n = some w ↔ (∃ a, n.block = .action a) ∧
      (∀ e ∈ g.edges, e.source ≠ n.id ∧ e.target ≠ n.id) ∧
      (∃ m ∈ g.nodes, ∃ c, m.block = .condition c) ∧ w = .looseAction n.id := by
  rw [looseAction?, ← isConnected_eq_false_iff, ← conditions_ne_nil_iff]
  cases n.block <;> simp [and_assoc, @eq_comm _ w]

theorem unsupportedType?_eq_some_iff {n : Node} {w : Warning} :
    unsupportedType? n = some w ↔ ∃ o, n.block = .operator o ∧ o.resolvedType ∉ ["AND", "OR", "NOT", "XOR"] ∧
      w = .unsupportedType n.id o.resolvedType := by
  simp only [← ofName?_eq_none_iff]
  rw [unsupportedType?]
  cases n.block <;> simp [@eq_comm _ w]

def cycleReport (g : Graph) : List (Site × Warning) := (g.findCycle.map fun ids => (.rule, .cycle ids)).toList

theorem mem_cycleReport {r : Site × Warning} :
    r ∈ g.cycleReport ↔ ∃ ids, g.findCycle = some ids ∧ r = (.rule, .cycle ids) := by
  simp only [cycleReport, Option.mem_toList, Option.map_eq_some_iff, @eq_comm _ r]

theorem areOfKind_cycleReport (g : Graph) : AreOfKind 4 g.cycleReport where
  kind_eq := by
    intro r hr
    obtain ⟨ids, -, rfl⟩ := mem_cycleReport.1 hr
    rfl
  ordered := by
    rw [cycleReport]
    cases g.findCycle <;> simp

def reports (g : Graph) : List (Site × Warning) :=
  reportsAlong g.endReports g.edges ++ reportsAlong (blockReports .condition g.looseCondition?) g.nodes ++
    reportsAlong (blockReports .action g.looseAction?) g.nodes ++
    reportsAlong (blockReports .operator unsupportedType?) g.nodes ++ g.cycleReport

theorem map_reports (g : Graph) : g.reports.map Prod.snd = g.warnings := by
  have hcycle : g.cycleReport.map Prod.snd = (g.findCycle.map Warning.cycle).toList := by
    rw [cycleReport]
    cases g.findCycle <;> rfl
  simp only [reports, List.map_append, map_endReports, map_blockReports, ← looseConditions_eq, ← looseActions_eq,
    ← unsupportedTypes_eq, hcycle, warnings]

theorem pairwise_reports (g : Graph) : g.reports.Pairwise fun r r' => r.1.Before r'.1 := by
  have hconditions : AreOfKind 1 (reportsAlong (blockReports .condition g.looseCondition?) g.nodes) :=
    areOfKind_blockReports fun _ => rfl
  have hactions : AreOfKind 2 (reportsAlong (blockReports .action g.looseAction?) g.nodes) :=
    areOfKind_blockReports fun _ => rfl
  have hoperators : AreOfKind 3 (reportsAlong (blockReports .operator unsupportedType?) g.nodes) :=
    areOfKind_blockReports fun _ => rfl
  -- Each kind in its turn follows all those before it.
  obtain ⟨hpairwise, hbelow⟩ := pairwise_append_ofKind .nil nofun g.areOfKind_endReports
  obtain ⟨hpairwise, hbelow⟩ := pairwise_append_ofKind hpairwise hbelow hconditions
  obtain ⟨hpairwise, hbelow⟩ := pairwise_append_ofKind hpairwise hbelow hactions
  obtain ⟨hpairwise, hbelow⟩ := pairwise_append_ofKind hpairwise hbelow hoperators
  exact (pairwise_append_ofKind hpairwise hbelow g.areOfKind_cycleReport).1

theorem warnedAt_of_mem {r : Site × Warning} (h : r ∈ g.reports) : g.WarnedAt r.1 r.2 := by
  simp only [reports, List.mem_append] at h
  obtain (((h | h) | h) | h) | h := h
  · obtain ⟨i, e, he, hr⟩ := mem_reportsAlong.1 h
    obtain ⟨rfl, hunknown⟩ | ⟨rfl, hunknown⟩ := mem_endReports.1 hr
    · exact .source he (hasNode_eq_false_iff.1 hunknown)
    · exact .target he (hasNode_eq_false_iff.1 hunknown)
  · obtain ⟨i, n, hn, hw, hsite⟩ := mem_blockReports.1 h
    obtain ⟨⟨c, hc⟩, hloose, hothers, hw⟩ := looseCondition?_eq_some_iff.1 hw
    rw [hsite, hw]
    exact .condition hn hc hloose hothers
  · obtain ⟨i, n, hn, hw, hsite⟩ := mem_blockReports.1 h
    obtain ⟨⟨a, ha⟩, hloose, hconditional, hw⟩ := looseAction?_eq_some_iff.1 hw
    rw [hsite, hw]
    exact .action hn ha hloose hconditional
  · obtain ⟨i, n, hn, hw, hsite⟩ := mem_blockReports.1 h
    obtain ⟨o, ho, htype, hw⟩ := unsupportedType?_eq_some_iff.1 hw
    rw [hsite, hw]
    exact .operator hn ho htype
  · obtain ⟨ids, hids, rfl⟩ := mem_cycleReport.1 h
    exact .rule (isCycle_of_findCycle hids)

/-- Each defective site is reported. -/
theorem exists_mem_of_warnedAt {s : Site} {w : Warning} (h : g.WarnedAt s w) : ∃ w', (s, w') ∈ g.reports := by
  simp only [reports, List.mem_append]
  cases h with
  | @source i e he hunknown =>
    have hr : (.source i, .unknownEnd e e.source) ∈ g.endReports i e :=
      mem_endReports.2 (.inl ⟨rfl, hasNode_eq_false_iff.2 hunknown⟩)
    exact ⟨_, .inl (.inl (.inl (.inl (mem_reportsAlong.2 ⟨_, _, he, hr⟩))))⟩
  | @target i e he hunknown =>
    have hr : (.target i, .unknownEnd e e.target) ∈ g.endReports i e :=
      mem_endReports.2 (.inr ⟨rfl, hasNode_eq_false_iff.2 hunknown⟩)
    exact ⟨_, .inl (.inl (.inl (.inl (mem_reportsAlong.2 ⟨_, _, he, hr⟩))))⟩
  | condition hn hc hloose hothers =>
    have hw := looseCondition?_eq_some_iff.2 ⟨⟨_, hc⟩, hloose, hothers, rfl⟩
    exact ⟨_, .inl (.inl (.inl (.inr (mem_blockReports.2 ⟨_, _, hn, hw, rfl⟩))))⟩
  | action hn ha hloose hconditional =>
    have hw := looseAction?_eq_some_iff.2 ⟨⟨_, ha⟩, hloose, hconditional, rfl⟩
    exact ⟨_, .inl (.inl (.inr (mem_blockReports.2 ⟨_, _, hn, hw, rfl⟩)))⟩
  | operator hn ho htype =>
    have hw := unsupportedType?_eq_some_iff.2 ⟨_, ho, htype, rfl⟩
    exact ⟨_, .inl (.inr (mem_blockReports.2 ⟨_, _, hn, hw, rfl⟩))⟩
  | rule hcycle =>
    obtain ⟨ids, hids⟩ := Option.ne_none_iff_exists'.1 (findCycle_ne_none_iff.2 hcycle.transGen)
    exact ⟨_, .inr (mem_cycleReport.2 ⟨ids, hids, rfl⟩)⟩

theorem isValid_iff : g.validate.isValid = true ↔
    (∃ n ∈ g.nodes, ∃ c, n.block = .condition c) ∧ ∃ n ∈ g.nodes, ∃ a, n.block = .action a := by
  rw [isValid_validate, not_or, ← Ne, ← Ne, conditions_ne_nil_iff, actions_ne_nil_iff]

/-- The warnings of a rule are one for each defective site, in the order of the sites: each end of an edge that is no
node, each condition and each action that no edge touches, each operator of an unsupported type, and the rule where
edges between its nodes form a cycle. The rule is valid if it has a condition and an action, whatever its edges and
its warnings. -/
theorem warnings_located (g : Graph) :
    (∃ reports : List (Site × Warning), reports.map Prod.snd = g.warnings ∧
      (reports.Pairwise fun r r' => r.1.Before r'.1) ∧ (∀ r ∈ reports, g.WarnedAt r.1 r.2) ∧
      ∀ s w, g.WarnedAt s w → ∃ w', (s, w') ∈ reports) ∧
    ((∃ ids, .cycle ids ∈ g.warnings) ↔ ∃ a, TransGen g.Linked a a) ∧
    (g.warnings = [] ↔ ∀ s w, ¬ g.WarnedAt s w) ∧
    (g.validate.isValid = true ↔
      (∃ n ∈ g.nodes, ∃ c, n.block = .condition c) ∧ ∃ n ∈ g.nodes, ∃ a, n.block = .action a) ∧
    ∀ edges, (validate ⟨g.nodes, edges⟩).isValid = g.validate.isValid := by
  refine ⟨⟨g.reports, g.map_reports, g.pairwise_reports, fun r => warnedAt_of_mem, fun s w => exists_mem_of_warnedAt⟩,
    ?_, ?_, isValid_iff, fun edges => ?_⟩
  · rw [← findCycle_ne_none_iff, Option.ne_none_iff_exists']
    exact exists_congr fun ids => mem_warnings
  · rw [← map_reports, List.map_eq_nil_iff]
    constructor
    · intro hnil s w hwarned
      obtain ⟨w', hw'⟩ := exists_mem_of_warnedAt hwarned
      rw [hnil] at hw'
      cases hw'
    · intro hnone
      exact List.eq_nil_iff_forall_not_mem.2 fun r hr => hnone r.1 r.2 (warnedAt_of_mem hr)
  · rw [Bool.eq_iff_iff, isValid_iff, isValid_iff]

end Graph

end BlockRules
