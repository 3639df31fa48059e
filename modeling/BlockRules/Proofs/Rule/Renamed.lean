import BlockRules.Proofs.Cycle.Step
import Mathlib.Data.List.Find
import Mathlib.Data.Set.Function

set_option autoImplicit false

/-!
# Rules with other identifiers

Identifiers may be exchanged for others, at nodes and at the ends of edges, ends that are no node included. Where those
that occur in a rule stay different, the nodes and edges of each are found as before, and the search for cycles takes
the same steps under the new names.
-/
namespace BlockRules

def Node.renamed (rename : String → String) (n : Node) : Node := { n with id := rename n.id }

/-- The edge between the renamed ends. Its own identifier means no node, and may become any other. -/
def Edge.renamed (rename label : String → String) (e : Edge) : Edge :=
  ⟨label e.id, rename e.source, rename e.target⟩

namespace Graph

/-- The rule with its nodes renamed, and its edges labelled anew. -/
def renamed (rename label : String → String) (g : Graph) : Graph :=
  ⟨g.nodes.map (Node.renamed rename), g.edges.map (Edge.renamed rename label)⟩

/-- The identifiers that occur in a rule: those of its nodes, and both ends of its edges. -/
def mentioned (g : Graph) : List String := g.nodes.map (·.id) ++ g.edges.flatMap fun e => [e.source, e.target]

variable {g : Graph} {rename : String → String} {id : String}

theorem id_mem_mentioned {n : Node} (h : n ∈ g.nodes) : n.id ∈ g.mentioned :=
  List.mem_append_left _ (List.mem_map_of_mem h)

theorem source_mem_mentioned {e : Edge} (h : e ∈ g.edges) : e.source ∈ g.mentioned :=
  List.mem_append_right _ (List.mem_flatMap.2 ⟨e, h, List.mem_cons_self⟩)

theorem target_mem_mentioned {e : Edge} (h : e ∈ g.edges) : e.target ∈ g.mentioned :=
  List.mem_append_right _ (List.mem_flatMap.2 ⟨e, h, List.mem_cons_of_mem _ List.mem_cons_self⟩)

theorem mem_mentioned_of_mem_ids (h : id ∈ g.ids) : id ∈ g.mentioned :=
  List.mem_append_left _ (List.mem_eraseDups.1 h)

theorem mem_mentioned_of_mem_targets {target : String} (h : target ∈ g.targets id) : target ∈ g.mentioned := by
  obtain ⟨e, he, rfl⟩ := List.mem_map.1 h
  exact target_mem_mentioned (List.mem_filter.1 he).1

/-- A renaming under which the identifiers of a rule stay different. -/
def KeepsApart (g : Graph) (rename : String → String) : Prop := Set.InjOn rename {id | id ∈ g.mentioned}

namespace KeepsApart

variable (label : String → String)

theorem beq_eq (h : g.KeepsApart rename) {a b : String} (ha : a ∈ g.mentioned) (hb : b ∈ g.mentioned) :
    (rename a == rename b) = (a == b) := by
  rw [Bool.eq_iff_iff, beq_iff_eq, beq_iff_eq]
  exact h.eq_iff ha hb

theorem mem_map_iff (h : g.KeepsApart rename) {ids : List String} (hids : ∀ a ∈ ids, a ∈ g.mentioned)
    (hid : id ∈ g.mentioned) : rename id ∈ ids.map rename ↔ id ∈ ids := by
  constructor
  · intro hmem
    obtain ⟨a, ha, heq⟩ := List.mem_map.1 hmem
    exact h (hids a ha) hid heq ▸ ha
  · exact List.mem_map_of_mem

theorem dropWhile_map (h : g.KeepsApart rename) {ids : List String} (hids : ∀ a ∈ ids, a ∈ g.mentioned)
    (hid : id ∈ g.mentioned) :
    ((ids.map rename).dropWhile fun a => a != rename id) = (ids.dropWhile fun a => a != id).map rename := by
  induction ids with
  | nil => rfl
  | cons a ids ih =>
    obtain ⟨ha, hids⟩ := List.forall_mem_cons.1 hids
    have hne : (rename a != rename id) = (a != id) := congrArg (! ·) (h.beq_eq ha hid)
    rw [List.map_cons, List.dropWhile_cons, List.dropWhile_cons, hne, ih hids]
    split <;> rfl

theorem eraseDups_map (h : g.KeepsApart rename) (ids : List String) (hids : ∀ a ∈ ids, a ∈ g.mentioned) :
    (ids.map rename).eraseDups = ids.eraseDups.map rename := by
  induction hn : ids.length using Nat.strongRecOn generalizing ids with
  | ind n ih =>
    cases ids with
    | nil => rfl
    | cons a ids =>
      have hlength := List.length_filter_le (fun b => !b == a) ids
      have hfirst : (ids.filter fun b => !rename b == rename a) = ids.filter fun b => !b == a :=
        List.filter_congr fun b hb => by
          rw [h.beq_eq (hids b (List.mem_cons_of_mem a hb)) (hids a List.mem_cons_self)]
      rw [List.map_cons, List.eraseDups_cons, List.eraseDups_cons, List.map_cons, List.filter_map]
      change rename a :: ((ids.filter fun b => !rename b == rename a).map rename).eraseDups = _
      rw [hfirst]
      congr 1
      refine ih _ (by rw [← hn, List.length_cons]; omega) _ (fun b hb => ?_) rfl
      exact hids b (List.mem_cons_of_mem a (List.mem_filter.1 hb).1)

theorem node?_eq (h : g.KeepsApart rename) (hid : id ∈ g.mentioned) :
    (g.renamed rename label).node? (rename id) = (g.node? id).map (Node.renamed rename) := by
  rw [node?, node?, renamed, List.find?_map]
  congr 1
  exact List.find?_congr fun n hn => h.beq_eq (id_mem_mentioned hn) hid

theorem hasNode_eq (h : g.KeepsApart rename) (hid : id ∈ g.mentioned) :
    (g.renamed rename label).hasNode (rename id) = g.hasNode id := by
  rw [← isSome_node?, ← isSome_node?, h.node?_eq label hid, Option.isSome_map]

theorem outgoing_eq (h : g.KeepsApart rename) (hid : id ∈ g.mentioned) :
    (g.renamed rename label).outgoing (rename id) = (g.outgoing id).map (Edge.renamed rename label) := by
  rw [outgoing, outgoing, renamed, List.filter_map]
  congr 1
  exact List.filter_congr fun e he => h.beq_eq (source_mem_mentioned he) hid

theorem incoming_eq (h : g.KeepsApart rename) (hid : id ∈ g.mentioned) :
    (g.renamed rename label).incoming (rename id) = (g.incoming id).map (Edge.renamed rename label) := by
  rw [incoming, incoming, renamed, List.filter_map]
  congr 1
  exact List.filter_congr fun e he => h.beq_eq (target_mem_mentioned he) hid

theorem targets_eq (h : g.KeepsApart rename) (hid : id ∈ g.mentioned) :
    (g.renamed rename label).targets (rename id) = (g.targets id).map rename := by
  rw [targets, targets, h.outgoing_eq label hid, List.map_map, List.map_map]
  rfl

theorem roots_eq (h : g.KeepsApart rename) :
    (g.renamed rename label).roots = g.roots.map (Node.renamed rename) := by
  rw [roots, roots, renamed, List.filter_map]
  congr 1
  refine List.filter_congr fun n hn => ?_
  have hreached : ((g.edges.map (Edge.renamed rename label)).any fun e => e.target == rename n.id) =
      g.edges.any fun e => e.target == n.id := by
    rw [List.any_map, Bool.eq_iff_iff, List.any_eq_true, List.any_eq_true]
    refine exists_congr fun e => and_congr_right fun he => ?_
    exact iff_of_eq (congrArg (· = true) (h.beq_eq (target_mem_mentioned he) (id_mem_mentioned hn)))
  exact congrArg (! ·) hreached

theorem ids_eq (h : g.KeepsApart rename) : (g.renamed rename label).ids = g.ids.map rename := by
  have hids : ∀ a ∈ g.nodes.map (·.id), a ∈ g.mentioned := fun a ha => List.mem_append_left _ ha
  rw [ids, ids, ← h.eraseDups_map _ hids, renamed, List.map_map, List.map_map]
  rfl

end KeepsApart

end Graph

def OpenNode.renamed (rename : String → String) (o : OpenNode) : OpenNode := ⟨rename o.id, o.pending.map rename⟩

namespace SearchState

def renamed (rename : String → String) (s : SearchState) : SearchState :=
  ⟨s.seen.map rename, s.path.map (OpenNode.renamed rename), s.starts.map rename⟩

/-- All identifiers that a state of the search holds occur in the rule. -/
structure IsWithin (s : SearchState) (g : Graph) : Prop where
  seen : ∀ id ∈ s.seen, id ∈ g.mentioned
  path : ∀ o ∈ s.path, o.id ∈ g.mentioned ∧ ∀ target ∈ o.pending, target ∈ g.mentioned
  starts : ∀ id ∈ s.starts, id ∈ g.mentioned

end SearchState

def SearchStep.renamed (rename : String → String) : SearchStep → SearchStep
  | .done answer => .done (answer.map (List.map rename))
  | .next s => .next (s.renamed rename)

namespace Graph

variable {g : Graph} {rename : String → String} {s t : SearchState}

theorem isWithin_searchStart (g : Graph) : g.searchStart.IsWithin g where
  seen := nofun
  path := nofun
  starts := fun _ => mem_mentioned_of_mem_ids

theorem openNode_isWithin {id : String} (hid : id ∈ g.mentioned) :
    (g.openNode id).id ∈ g.mentioned ∧ ∀ target ∈ (g.openNode id).pending, target ∈ g.mentioned :=
  ⟨hid, fun _ => mem_mentioned_of_mem_targets⟩

theorem Advances.isWithin (h : g.Advances s t) (hs : s.IsWithin g) : t.IsWithin g := by
  obtain ⟨hseen, hpath, hstarts⟩ := hs
  cases h with
  | pass old => exact ⟨hseen, hpath, (List.forall_mem_cons.1 hstarts).2⟩
  | start new =>
    obtain ⟨hstart, hrest⟩ := List.forall_mem_cons.1 hstarts
    exact ⟨List.forall_mem_cons.2 ⟨hstart, hseen⟩, List.forall_mem_singleton.2 (openNode_isWithin hstart), hrest⟩
  | close => exact ⟨hseen, (List.forall_mem_cons.1 hpath).2, hstarts⟩
  | skip idle =>
    obtain ⟨⟨hid, hpending⟩, hpath⟩ := List.forall_mem_cons.1 hpath
    exact ⟨hseen, List.forall_mem_cons.2 ⟨⟨hid, (List.forall_mem_cons.1 hpending).2⟩, hpath⟩, hstarts⟩
  | enter known apart new =>
    obtain ⟨⟨hid, hpending⟩, hpath⟩ := List.forall_mem_cons.1 hpath
    obtain ⟨htarget, hpending⟩ := List.forall_mem_cons.1 hpending
    refine ⟨List.forall_mem_cons.2 ⟨htarget, hseen⟩, ?_, hstarts⟩
    exact List.forall_mem_cons.2 ⟨openNode_isWithin htarget, List.forall_mem_cons.2 ⟨⟨hid, hpending⟩, hpath⟩⟩

namespace KeepsApart

variable (label : String → String)

theorem openNode_eq (h : g.KeepsApart rename) {id : String} (hid : id ∈ g.mentioned) :
    (g.renamed rename label).openNode (rename id) = (g.openNode id).renamed rename := by
  rw [openNode, openNode, h.targets_eq label hid]
  rfl

theorem closeCycle_eq (h : g.KeepsApart rename) {path : List OpenNode} (hpath : ∀ o ∈ path, o.id ∈ g.mentioned)
    {id : String} (hid : id ∈ g.mentioned) :
    closeCycle (path.map (OpenNode.renamed rename)) (rename id) = (closeCycle path id).map rename := by
  have hids : (path.map (OpenNode.renamed rename)).map (·.id) = (path.map (·.id)).map rename := by
    rw [List.map_map, List.map_map]
    rfl
  have hreverse : ∀ a ∈ (path.map (·.id)).reverse, a ∈ g.mentioned := by
    intro a ha
    obtain ⟨o, ho, rfl⟩ := List.mem_map.1 (List.mem_reverse.1 ha)
    exact hpath o ho
  rw [closeCycle, closeCycle, hids, ← List.map_reverse, h.dropWhile_map hreverse hid, List.map_append]
  rfl

theorem step_look_eq (h : g.KeepsApart rename) {seen starts pending : List String} {id target : String}
    {path : List OpenNode} (hs : SearchState.IsWithin ⟨seen, ⟨id, target :: pending⟩ :: path, starts⟩ g) :
    (g.renamed rename label).step (SearchState.renamed rename ⟨seen, ⟨id, target :: pending⟩ :: path, starts⟩) =
      (g.step ⟨seen, ⟨id, target :: pending⟩ :: path, starts⟩).renamed rename := by
  obtain ⟨⟨hid, hpending⟩, hpath⟩ := List.forall_mem_cons.1 hs.path
  have htarget := (List.forall_mem_cons.1 hpending).1
  have hopen : ∀ o ∈ ⟨id, pending⟩ :: path, o.id ∈ g.mentioned :=
    List.forall_mem_cons.2 ⟨hid, fun o ho => (hpath o ho).1⟩
  have honPath : rename target ∈ rename id :: (path.map (OpenNode.renamed rename)).map (·.id) ↔
      target ∈ id :: path.map (·.id) := by
    have hids : ∀ a ∈ id :: path.map (·.id), a ∈ g.mentioned := List.forall_mem_map.2 hopen
    rw [← h.mem_map_iff hids htarget, List.map_cons, List.map_map, List.map_map]
    rfl
  rw [SearchState.renamed, List.map_cons, OpenNode.renamed, List.map_cons, step, step]
  rw [h.hasNode_eq label htarget]
  simp only [honPath, h.mem_map_iff hs.seen htarget]
  split
  · rfl
  split
  · have hclose := h.closeCycle_eq hopen htarget
    rw [List.map_cons] at hclose
    exact congrArg (fun ids => SearchStep.done (some ids)) hclose
  split
  · rfl
  · rw [h.openNode_eq label htarget]
    rfl

/-- One step of the search, under the new names. -/
theorem step_eq (h : g.KeepsApart rename) (hs : s.IsWithin g) :
    (g.renamed rename label).step (s.renamed rename) = (g.step s).renamed rename := by
  match s with
  | ⟨seen, [], []⟩ => rfl
  | ⟨seen, [], start :: rest⟩ =>
    have hstart := (List.forall_mem_cons.1 hs.starts).1
    rw [SearchState.renamed, List.map_cons, List.map_nil, step, step, h.openNode_eq label hstart]
    simp only [h.mem_map_iff hs.seen hstart]
    split <;> rfl
  | ⟨seen, ⟨id, []⟩ :: path, starts⟩ => rfl
  | ⟨seen, ⟨id, target :: pending⟩ :: path, starts⟩ => exact h.step_look_eq label hs

theorem ends (h : g.KeepsApart rename) {n : Nat} {answer : Option (List String)} (hends : g.Ends s n answer)
    (hs : s.IsWithin g) :
    (g.renamed rename label).Ends (s.renamed rename) n (answer.map (List.map rename)) := by
  induction hends with
  | done hdone =>
    refine .done ?_
    rw [h.step_eq label hs, hdone]
    rfl
  | next hnext _ ih =>
    refine .next ?_ (ih ((advances_of_step hnext).isWithin hs))
    rw [h.step_eq label hs, hnext]
    rfl

end KeepsApart

theorem KeepsApart.findCycle_eq (h : g.KeepsApart rename) (label : String → String) :
    (g.renamed rename label).findCycle = g.findCycle.map (List.map rename) := by
  obtain ⟨n, -, hends⟩ := g.exists_ends g.searchStart fun id hid => hid
  rw [resume_searchStart] at hends
  have hstart : g.searchStart.renamed rename = (g.renamed rename label).searchStart := by
    rw [searchStart, searchStart, h.ids_eq label]
    rfl
  have hrenamed := h.ends label hends g.isWithin_searchStart
  rw [hstart] at hrenamed
  rw [← resume_searchStart]
  exact hrenamed.resume_eq

end Graph

end BlockRules
