import BlockRules.Proofs.Walk.Stack

set_option autoImplicit false

namespace BlockRules

/-- Where a route ends, and the places of the edges that it takes. -/
structure Route where
  places : List Nat
  id : String
  action : Action

namespace Route

def via (place : Nat) (r : Route) : Route := { r with places := place :: r.places }

/-- The step that the action at the end of a route leaves, given the depth at which the route
starts. -/
def step (depth : Nat) (r : Route) : Step :=
  ⟨r.id, .action, r.action.description, depth + r.places.length⟩

theorem step_via (depth place : Nat) (r : Route) :
    (r.via place).step depth = r.step (depth + 1) := by
  simp only [step, via, List.length_cons, Step.mk.injEq, true_and]
  omega

end Route

namespace Graph

def opens (g : Graph) (inputs : Inputs) (id : String) : Bool :=
  match g.block? id with
  | some (.condition c) => (c.test inputs matches .ok true)
  | some (.operator o) => (g.operatorPasses inputs id o matches .ok true)
  | _ => false

/-- The edges at some places lead from one identifier to another, one after the other. -/
def Leads (g : Graph) : String → List Nat → String → Prop
  | id, [], last => id = last
  | id, place :: places, last =>
    ∃ e, g.edges[place]? = some e ∧ e.source = id ∧ Leads g e.target places last

def sourcesAt (g : Graph) (places : List Nat) : List String :=
  places.filterMap fun place => g.edges[place]?.map (·.source)

/-- A route from an identifier: what it leaves is different and passes, and it ends at an action. -/
structure IsRoute (g : Graph) (inputs : Inputs) (id : String) (r : Route) : Prop where
  leads : g.Leads id r.places r.id
  distinct : (g.sourcesAt r.places).Nodup
  opens : ∀ x ∈ g.sourcesAt r.places, g.opens inputs x = true
  action : g.block? r.id = some (.action r.action)

def exits (g : Graph) (id : String) : List (Edge × Nat) :=
  g.edges.zipIdx.filter fun x => x.1.source == id

/-- The routes from an identifier that keep off a path. -/
def routes (g : Graph) (inputs : Inputs) (path : List String) (id : String) : List Route :=
  match _known : g.node? id with
  | none => []
  | some n =>
    if _repeated : id ∈ path then []
    else
      match n.block with
      | .action a => [⟨[], id, a⟩]
      | _ =>
        if g.opens inputs id then
          (g.exits id).flatMap fun x => (routes g inputs (id :: path) x.1.target).map (.via x.2)
        else []
termination_by g.unvisited path
decreasing_by exact unvisited_cons_lt (mem_ids_of_node? _known) _repeated

theorem sourcesAt_cons {g : Graph} {place : Nat} {places : List Nat} {e : Edge}
    (h : g.edges[place]? = some e) :
    g.sourcesAt (place :: places) = e.source :: g.sourcesAt places := by
  simp [sourcesAt, h]

theorem mem_exits {g : Graph} {id : String} {x : Edge × Nat} :
    x ∈ g.exits id ↔ g.edges[x.2]? = some x.1 ∧ x.1.source = id := by
  simp [exits, List.mem_zipIdx_iff_getElem?]

theorem map_fst_exits (g : Graph) (id : String) : (g.exits id).map (·.1) = g.outgoing id := by
  have h : (g.edges.zipIdx.filter ((fun e : Edge => e.source == id) ∘ Prod.fst)).map Prod.fst =
      g.outgoing id := by
    rw [← List.filter_map, List.zipIdx_map_fst, outgoing]
  exact h

theorem exits_pairwise (g : Graph) (id : String) : (g.exits id).Pairwise fun x y => x.2 < y.2 := by
  apply List.Pairwise.filter
  exact Gathering.zipIdx_pairwise_lt g.edges

theorem opens_eq_false_of_unknown {g : Graph} {inputs : Inputs} {id : String}
    (h : g.node? id = none) : g.opens inputs id = false := by
  rw [opens, block?_of_unknown h]

theorem opens_eq_false_of_action {g : Graph} {inputs : Inputs} {id : String} {a : Action}
    (h : g.block? id = some (.action a)) : g.opens inputs id = false := by
  rw [opens, h]

theorem eq_action_of_node? {g : Graph} {id : String} {n : Node} {a : Action}
    (hn : g.node? id = some n) (ha : g.block? id = some (.action a)) : n.block = .action a :=
  Option.some.inj ((block?_of_node? hn).symm.trans ha)

/-- A route stops at an action, or takes an edge out of a block that passes and goes on without it.
-/
theorem isRoute_iff {g : Graph} {inputs : Inputs} {id : String} {r : Route} :
    g.IsRoute inputs id r ↔ (r = ⟨[], id, r.action⟩ ∧ g.block? id = some (.action r.action)) ∨
      g.opens inputs id = true ∧ ∃ x ∈ g.exits id, ∃ rest, r = rest.via x.2 ∧
        id ∉ g.sourcesAt rest.places ∧ g.IsRoute inputs x.1.target rest := by
  obtain ⟨places, last, a⟩ := r
  constructor
  · rintro ⟨hleads, hdistinct, hopens, haction⟩
    cases places with
    | nil =>
      obtain rfl : id = last := hleads
      exact .inl ⟨rfl, haction⟩
    | cons place places =>
      obtain ⟨e, he, rfl, hrest⟩ := hleads
      rw [sourcesAt_cons he] at hdistinct hopens
      obtain ⟨hnew, hdistinct⟩ := List.nodup_cons.1 hdistinct
      have hroute : g.IsRoute inputs e.target ⟨places, last, a⟩ :=
        ⟨hrest, hdistinct, fun x hx => hopens x (List.mem_cons_of_mem _ hx), haction⟩
      refine .inr ⟨hopens _ List.mem_cons_self, (e, place), mem_exits.2 ⟨he, rfl⟩, ?_⟩
      exact ⟨⟨places, last, a⟩, rfl, hnew, hroute⟩
  · rintro (⟨hr, haction⟩ | ⟨hopen, x, hx, rest, hr, hnew, hrest⟩)
    · cases hr
      exact ⟨rfl, List.nodup_nil, fun x hx => absurd hx List.not_mem_nil, haction⟩
    · obtain ⟨he, hsource⟩ := mem_exits.1 hx
      have hsources : g.sourcesAt (x.2 :: rest.places) = id :: g.sourcesAt rest.places :=
        hsource ▸ sourcesAt_cons he
      rw [hr]
      refine ⟨⟨x.1, he, hsource, hrest.leads⟩, ?_, ?_, hrest.action⟩
      · rw [Route.via, hsources]
        exact List.nodup_cons.2 ⟨hnew, hrest.distinct⟩
      · rw [Route.via, hsources]
        exact List.forall_mem_cons.2 ⟨hopen, hrest.opens⟩

/-- The routes that keep off a path are those that leave and reach nothing on it. -/
theorem mem_routes (g : Graph) (inputs : Inputs) (path : List String) (id : String) (r : Route) :
    r ∈ g.routes inputs path id ↔
      g.IsRoute inputs id r ∧ r.id ∉ path ∧ ∀ x ∈ g.sourcesAt r.places, x ∉ path := by
  fun_induction routes g inputs path id generalizing r with
  | case1 path id h =>
    rw [isRoute_iff, block?_of_unknown h, opens_eq_false_of_unknown h]
    simp
  | case2 path id n h hid =>
    refine iff_of_false List.not_mem_nil ?_
    rintro ⟨hr, hlast, hsources⟩
    obtain ⟨hr, -⟩ | ⟨-, x, hx, rest, rfl, -⟩ := isRoute_iff.1 hr
    · rw [hr] at hlast
      exact hlast hid
    · obtain ⟨he, rfl⟩ := mem_exits.1 hx
      refine hsources _ ?_ hid
      rw [Route.via, sourcesAt_cons he]
      exact List.mem_cons_self
  | case3 path id n h hid a ha =>
    have hblock : g.block? id = some (.action a) := ha ▸ block?_of_node? h
    rw [isRoute_iff, opens_eq_false_of_action hblock, hblock, List.mem_singleton]
    constructor
    · rintro rfl
      exact ⟨.inl ⟨rfl, rfl⟩, hid, fun x hx => absurd hx List.not_mem_nil⟩
    · rintro ⟨⟨hr, haction⟩ | ⟨hfalse, -⟩, -⟩
      · cases haction
        exact hr
      · cases hfalse
  | case4 path id n h hid hopen hb ih =>
    constructor
    · intro hr
      obtain ⟨x, hx, hr⟩ := List.mem_flatMap.1 hr
      obtain ⟨rest, hrest, rfl⟩ := List.mem_map.1 hr
      obtain ⟨hroute, hlast, hsources⟩ := (ih x rest).1 hrest
      have hnew : id ∉ g.sourcesAt rest.places := fun hmem => hsources id hmem List.mem_cons_self
      refine ⟨isRoute_iff.2 (.inr ⟨hopen, x, hx, rest, rfl, hnew, hroute⟩),
        fun hmem => hlast (List.mem_cons_of_mem _ hmem), ?_⟩
      obtain ⟨he, hsource⟩ := mem_exits.1 hx
      rw [Route.via, sourcesAt_cons he, hsource]
      refine List.forall_mem_cons.2 ⟨hid, ?_⟩
      exact fun y hy hmem => hsources y hy (List.mem_cons_of_mem _ hmem)
    · rintro ⟨hr, hlast, hsources⟩
      obtain ⟨-, haction⟩ | ⟨-, x, hx, rest, rfl, hnew, hrest⟩ := isRoute_iff.1 hr
      · exact absurd (eq_action_of_node? h haction) (hb _)
      obtain ⟨he, -⟩ := mem_exits.1 hx
      rw [Route.via, sourcesAt_cons he] at hsources
      refine List.mem_flatMap.2 ⟨x, hx, List.mem_map.2 ⟨rest, (ih x rest).2 ⟨hrest, ?_, ?_⟩, rfl⟩⟩
      -- The route ends at an action, and the block is none.
      · intro hmem
        obtain heq | hmem := List.mem_cons.1 hmem
        · exact hb _ (eq_action_of_node? h (heq ▸ hrest.action))
        · exact hlast hmem
      · intro y hy hmem
        obtain rfl | hmem := List.mem_cons.1 hmem
        · exact hnew hy
        · exact hsources y (List.mem_cons_of_mem _ hy) hmem
  | case5 path id n h hid hopen hb =>
    refine iff_of_false List.not_mem_nil ?_
    rintro ⟨hr, -⟩
    obtain ⟨-, haction⟩ | ⟨hopens, -⟩ := isRoute_iff.1 hr
    · exact hb _ (eq_action_of_node? h haction)
    · exact hopen hopens

theorem routes_pairwise (g : Graph) (inputs : Inputs) (path : List String) (id : String) :
    (g.routes inputs path id).Pairwise fun r s => r.places < s.places := by
  fun_induction routes g inputs path id with
  | case1 | case2 | case5 => exact List.Pairwise.nil
  | case3 => exact List.pairwise_singleton _ _
  | case4 path id n h hid hopen hb ih =>
    refine List.pairwise_flatMap.2 ⟨?_, ?_⟩
    · intro x hx
      refine List.pairwise_map.2 ((ih x).imp ?_)
      intro r s hlt
      exact List.cons_lt_cons_iff.2 (.inr ⟨rfl, hlt⟩)
    · refine (g.exits_pairwise id).imp ?_
      intro x y hlt r hr s hs
      obtain ⟨r, -, rfl⟩ := List.mem_map.1 hr
      obtain ⟨s, -, rfl⟩ := List.mem_map.1 hs
      exact List.cons_lt_cons_iff.2 (.inl hlt)

end Graph

end BlockRules
