import BlockRules.Proofs.Cycle.Step
import Mathlib.Data.List.Chain

set_option autoImplicit false

/-!
# What the search for cycles knows

The open nodes are a path along edges between nodes. What an open node has looked at is seen and is
neither the node nor before it on the path. Nodes that were closed lead to closed nodes only, and to
no cycle.
-/
namespace BlockRules.Graph
open Relation

/-- An edge between nodes leads from one to the other. -/
def Linked (g : Graph) (a b : String) : Prop :=
  g.hasNode a = true ∧ g.hasNode b = true ∧ ∃ e ∈ g.edges, e.source = a ∧ e.target = b

def pathIds (path : List OpenNode) : List String := path.map (·.id)

/-- Each open node knows where its edges lead: what is not pending was seen and is off the path up
to the node. -/
def Looked (g : Graph) (seen : List String) : List OpenNode → Prop
  | [] => True
  | o :: path =>
    (∀ b ∈ o.pending, b ∈ g.targets o.id) ∧
      (∀ b, g.Linked o.id b → b ∈ o.pending ∨ b ∈ seen ∧ b ∉ pathIds (o :: path)) ∧
      Looked g seen path

def Closed (s : SearchState) (id : String) : Prop := id ∈ s.seen ∧ id ∉ pathIds s.path

structure SearchInvariant (g : Graph) (s : SearchState) : Prop where
  nodup : (pathIds s.path).Nodup
  seen : ∀ id ∈ pathIds s.path, id ∈ s.seen
  known : ∀ id ∈ s.seen, g.hasNode id = true
  starts : ∀ id ∈ s.starts, id ∈ g.ids
  left : ∀ id ∈ g.ids, id ∈ s.seen ∨ id ∈ s.starts
  chain : (pathIds s.path).IsChain fun a b => g.Linked b a
  looked : g.Looked s.seen s.path
  closed : ∀ a, Closed s a → ∀ b, g.Linked a b → Closed s b
  acyclic : ∀ a, Closed s a → ¬ TransGen g.Linked a a

theorem mem_targets {g : Graph} {id b : String} :
    b ∈ g.targets id ↔ ∃ e ∈ g.edges, e.source = id ∧ e.target = b := by
  simp [targets, outgoing, and_assoc]

theorem Looked.mono {g : Graph} {seen : List String} {path : List OpenNode}
    (h : g.Looked seen path) (id : String) : g.Looked (id :: seen) path := by
  induction path with
  | nil => trivial
  | cons o path ih =>
    obtain ⟨hpending, hlinks, hrest⟩ := h
    refine ⟨hpending, ?_, ih hrest⟩
    intro b hb
    exact (hlinks b hb).imp_right fun hseen => ⟨List.mem_cons_of_mem _ hseen.1, hseen.2⟩

theorem Looked.skip {g : Graph} {seen pending : List String} {id target : String}
    {path : List OpenNode} (h : g.Looked seen (⟨id, target :: pending⟩ :: path))
    (idle : g.hasNode target = true → target ∈ seen ∧ target ∉ id :: pathIds path) :
    g.Looked seen (⟨id, pending⟩ :: path) := by
  obtain ⟨hpending, hlinks, hrest⟩ := h
  refine ⟨fun b hb => hpending b (List.mem_cons_of_mem _ hb), ?_, hrest⟩
  intro b hb
  obtain hmem | hseen := hlinks b hb
  · obtain rfl | hmem := List.mem_cons.1 hmem
    · exact .inr (idle hb.2.1)
    · exact .inl hmem
  · exact .inr hseen

theorem looked_openNode {g : Graph} {seen : List String} {id : String} {path : List OpenNode}
    (h : g.Looked seen path) : g.Looked seen (g.openNode id :: path) :=
  ⟨fun _ hb => hb, fun _ hb => .inl (mem_targets.2 hb.2.2), h⟩

theorem searchInvariant_start (g : Graph) : g.SearchInvariant g.searchStart where
  nodup := List.nodup_nil
  seen := fun _ hid => absurd hid List.not_mem_nil
  known := fun _ hid => absurd hid List.not_mem_nil
  starts := fun _ hid => hid
  left := fun _ hid => .inr hid
  chain := .nil
  looked := trivial
  closed := fun _ ha => absurd ha.1 List.not_mem_nil
  acyclic := fun _ ha => absurd ha.1 List.not_mem_nil

theorem SearchInvariant.closed_of_reach {g : Graph} {s : SearchState} {a b : String}
    (h : g.SearchInvariant s) (ha : Closed s a) (hab : ReflTransGen g.Linked a b) : Closed s b := by
  induction hab with
  | refl => exact ha
  | tail _ hlink ih => exact h.closed _ ih _ hlink

theorem SearchInvariant.linked {g : Graph} {seen starts pending : List String} {id target : String}
    {path : List OpenNode} (h : g.SearchInvariant ⟨seen, ⟨id, target :: pending⟩ :: path, starts⟩)
    (known : g.hasNode target = true) : g.Linked id target := by
  have hseen : id ∈ seen := h.seen id List.mem_cons_self
  have hedge : target ∈ g.targets id := h.looked.1 target List.mem_cons_self
  exact ⟨h.known id hseen, known, mem_targets.1 hedge⟩

/-- A node is opened that no edge of a closed node leads to. The path may have less pending than
before. -/
theorem SearchInvariant.opened {g : Graph} {seen starts starts' : List String}
    {path path' : List OpenNode} {id : String} (h : g.SearchInvariant ⟨seen, path, starts⟩)
    (hpath : pathIds path' = pathIds path) (known : g.hasNode id = true) (new : id ∉ seen)
    (hlink : ∀ a ∈ (pathIds path).head?, g.Linked a id)
    (hlooked : g.Looked (id :: seen) path') (hstarts : ∀ x ∈ starts', x ∈ g.ids)
    (hleft : ∀ x ∈ g.ids, x ∈ id :: seen ∨ x ∈ starts') :
    g.SearchInvariant ⟨id :: seen, g.openNode id :: path', starts'⟩ := by
  have hids : pathIds (g.openNode id :: path') = id :: pathIds path := congrArg (id :: ·) hpath
  -- The node is seen and open at once, so that the same nodes are closed as before.
  have hclosed : ∀ a, Closed ⟨id :: seen, g.openNode id :: path', starts'⟩ a ↔
      Closed ⟨seen, path, starts⟩ a := by
    intro a
    change a ∈ id :: seen ∧ a ∉ pathIds (g.openNode id :: path') ↔ a ∈ seen ∧ a ∉ pathIds path
    rw [hids]
    constructor
    · rintro ⟨hseen, hoff⟩
      obtain rfl | hseen := List.mem_cons.1 hseen
      · exact absurd List.mem_cons_self hoff
      · exact ⟨hseen, fun hmem => hoff (List.mem_cons_of_mem _ hmem)⟩
    · rintro ⟨hseen, hoff⟩
      refine ⟨List.mem_cons_of_mem _ hseen, fun hmem => ?_⟩
      obtain rfl | hmem := List.mem_cons.1 hmem
      · exact new hseen
      · exact hoff hmem
  constructor
  case nodup =>
    rw [hids]
    exact List.nodup_cons.2 ⟨fun hmem => new (h.seen id hmem), h.nodup⟩
  case seen =>
    rw [hids]
    refine List.forall_mem_cons.2 ⟨List.mem_cons_self, ?_⟩
    exact fun x hx => List.mem_cons_of_mem _ (h.seen x hx)
  case known => exact List.forall_mem_cons.2 ⟨known, h.known⟩
  case starts => exact hstarts
  case left => exact hleft
  case chain =>
    rw [hids]
    exact List.isChain_cons.2 ⟨hlink, h.chain⟩
  case looked => exact looked_openNode hlooked
  case closed => exact fun a ha b hb => (hclosed b).2 (h.closed a ((hclosed a).1 ha) b hb)
  case acyclic => exact fun a ha => h.acyclic a ((hclosed a).1 ha)

theorem SearchInvariant.close {g : Graph} {seen starts : List String} {id : String}
    {path : List OpenNode} (h : g.SearchInvariant ⟨seen, ⟨id, []⟩ :: path, starts⟩) :
    g.SearchInvariant ⟨seen, path, starts⟩ := by
  have hseen : id ∈ seen := h.seen id List.mem_cons_self
  obtain ⟨hoff, hnodup⟩ := List.nodup_cons.1 h.nodup
  have hlinks : ∀ b, g.Linked id b → Closed ⟨seen, ⟨id, []⟩ :: path, starts⟩ b := fun b hb =>
    (h.looked.2.1 b hb).resolve_left List.not_mem_nil
  have hold : ∀ a, Closed ⟨seen, ⟨id, []⟩ :: path, starts⟩ a → Closed ⟨seen, path, starts⟩ a :=
    fun a ha => ⟨ha.1, fun hmem => ha.2 (List.mem_cons_of_mem _ hmem)⟩
  have hclosed : ∀ a, Closed ⟨seen, path, starts⟩ a →
      a = id ∨ Closed ⟨seen, ⟨id, []⟩ :: path, starts⟩ a := by
    intro a ha
    by_cases hid : a = id
    · exact .inl hid
    · exact .inr ⟨ha.1, fun hmem => (List.mem_cons.1 hmem).elim hid ha.2⟩
  constructor
  case nodup => exact hnodup
  case seen => exact fun x hx => h.seen x (List.mem_cons_of_mem _ hx)
  case known => exact h.known
  case starts => exact h.starts
  case left => exact h.left
  case chain => exact (List.isChain_cons.1 h.chain).2
  case looked => exact h.looked.2.2
  case closed =>
    intro a ha b hb
    obtain rfl | ha := hclosed a ha
    · exact hold b (hlinks b hb)
    · exact hold b (h.closed a ha b hb)
  case acyclic =>
    intro a ha
    obtain rfl | ha := hclosed a ha
    -- A cycle would lead back to the node from a target that was closed while it was open.
    · intro hcycle
      obtain ⟨b, hb, hrest⟩ := TransGen.head'_iff.1 hcycle
      exact (h.closed_of_reach (hlinks b hb) hrest).2 List.mem_cons_self
    · exact h.acyclic a ha

/-- Every step keeps what the search knows. -/
theorem Advances.invariant {g : Graph} {s t : SearchState} (hstep : g.Advances s t)
    (h : g.SearchInvariant s) : g.SearchInvariant t := by
  cases hstep with
  | @pass seen rest start old =>
    have hstarts : ∀ x ∈ rest, x ∈ g.ids := fun x hx => h.starts x (List.mem_cons_of_mem _ hx)
    refine { h with starts := hstarts, left := fun x hx => ?_ }
    obtain hseen | hmem := h.left x hx
    · exact .inl hseen
    · exact (List.mem_cons.1 hmem).imp_left fun heq : x = start => heq ▸ old
  | @start seen rest start new =>
    have known : g.hasNode start = true :=
      mem_ids_iff_hasNode.1 (h.starts start List.mem_cons_self)
    refine h.opened rfl known new ?_ trivial ?_ ?_
    · intro a ha
      cases ha
    · exact fun x hx => h.starts x (List.mem_cons_of_mem _ hx)
    · intro x hx
      obtain hseen | hmem := h.left x hx
      · exact .inl (List.mem_cons_of_mem _ hseen)
      · exact (List.mem_cons.1 hmem).imp_left fun heq : x = start => heq ▸ List.mem_cons_self
  | close => exact h.close
  | skip idle => exact { h with looked := h.looked.skip idle }
  | @enter seen starts pending id target path known apart new =>
    have hpath : pathIds (⟨id, pending⟩ :: path) = pathIds (⟨id, target :: pending⟩ :: path) := rfl
    refine h.opened hpath known new ?_ ?_ h.starts ?_
    · intro a ha
      cases ha
      exact h.linked known
    · exact (h.looked.mono target).skip fun _ => ⟨List.mem_cons_self, apart⟩
    · exact fun x hx => (h.left x hx).imp_left (List.mem_cons_of_mem _)

end BlockRules.Graph
