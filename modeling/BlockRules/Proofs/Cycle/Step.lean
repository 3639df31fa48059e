import BlockRules.Rule.Cycle

set_option autoImplicit false

namespace BlockRules

/-- Where the search is: nodes seen, the path of open nodes, and the nodes that it has yet to start
from. -/
structure SearchState where
  seen : List String
  path : List OpenNode
  starts : List String

inductive SearchStep where
  | done (answer : Option (List String))
  | next (s : SearchState)

namespace Graph

def step (g : Graph) : SearchState → SearchStep
  | ⟨_, [], []⟩ => .done none
  | ⟨seen, [], start :: rest⟩ =>
    if start ∈ seen then .next ⟨seen, [], rest⟩ else .next ⟨start :: seen, [g.openNode start], rest⟩
  | ⟨seen, ⟨_, []⟩ :: path, starts⟩ => .next ⟨seen, path, starts⟩
  | ⟨seen, ⟨id, target :: pending⟩ :: path, starts⟩ =>
    if g.hasNode target = false then .next ⟨seen, ⟨id, pending⟩ :: path, starts⟩
    else if target ∈ id :: path.map (·.id) then
      .done (some (closeCycle (⟨id, pending⟩ :: path) target))
    else if target ∈ seen then .next ⟨seen, ⟨id, pending⟩ :: path, starts⟩
    else .next ⟨target :: seen, g.openNode target :: ⟨id, pending⟩ :: path, starts⟩

/-- The steps that go on. -/
inductive Advances (g : Graph) : SearchState → SearchState → Prop where
  | pass {seen rest : List String} {start : String} (old : start ∈ seen) :
    Advances g ⟨seen, [], start :: rest⟩ ⟨seen, [], rest⟩
  | start {seen rest : List String} {start : String} (new : start ∉ seen) :
    Advances g ⟨seen, [], start :: rest⟩ ⟨start :: seen, [g.openNode start], rest⟩
  | close {seen starts : List String} {id : String} {path : List OpenNode} :
    Advances g ⟨seen, ⟨id, []⟩ :: path, starts⟩ ⟨seen, path, starts⟩
  | skip {seen starts pending : List String} {id target : String} {path : List OpenNode}
    (idle : g.hasNode target = true → target ∈ seen ∧ target ∉ id :: path.map (·.id)) :
    Advances g ⟨seen, ⟨id, target :: pending⟩ :: path, starts⟩ ⟨seen, ⟨id, pending⟩ :: path, starts⟩
  | enter {seen starts pending : List String} {id target : String} {path : List OpenNode}
    (known : g.hasNode target = true) (apart : target ∉ id :: path.map (·.id))
    (new : target ∉ seen) :
    Advances g ⟨seen, ⟨id, target :: pending⟩ :: path, starts⟩
      ⟨target :: seen, g.openNode target :: ⟨id, pending⟩ :: path, starts⟩

/-- The steps that end the search. -/
inductive Concludes (g : Graph) : SearchState → Option (List String) → Prop where
  | none {seen : List String} : Concludes g ⟨seen, [], []⟩ none
  | cycle {seen starts pending : List String} {id target : String} {path : List OpenNode}
    (known : g.hasNode target = true) (onPath : target ∈ id :: path.map (·.id)) :
    Concludes g ⟨seen, ⟨id, target :: pending⟩ :: path, starts⟩
      (some (closeCycle (⟨id, pending⟩ :: path) target))

theorem step_cases (g : Graph) (s : SearchState) :
    (∃ answer, g.step s = .done answer ∧ g.Concludes s answer) ∨
      ∃ t, g.step s = .next t ∧ g.Advances s t := by
  fun_cases step g s with
  | case1 seen => exact .inl ⟨none, rfl, .none⟩
  | case2 seen start rest h => exact .inr ⟨_, rfl, .pass h⟩
  | case3 seen start rest h => exact .inr ⟨_, rfl, .start h⟩
  | case4 seen id path starts => exact .inr ⟨_, rfl, .close⟩
  | case5 seen id target pending path starts h =>
    exact .inr ⟨_, rfl, .skip fun known => absurd (h.symm.trans known) Bool.false_ne_true⟩
  | case6 seen id target pending path starts h hpath =>
    exact .inl ⟨_, rfl, .cycle (by simpa using h) hpath⟩
  | case7 seen id target pending path starts h hpath hseen =>
    exact .inr ⟨_, rfl, .skip fun _ => ⟨hseen, hpath⟩⟩
  | case8 seen id target pending path starts h hpath hseen =>
    exact .inr ⟨_, rfl, .enter (by simpa using h) hpath hseen⟩

theorem concludes_of_step {g : Graph} {s : SearchState} {answer : Option (List String)}
    (h : g.step s = .done answer) : g.Concludes s answer := by
  obtain ⟨answer', hdone, hconcludes⟩ | ⟨t, hnext, -⟩ := g.step_cases s
  · cases h.symm.trans hdone
    exact hconcludes
  · cases h.symm.trans hnext

theorem advances_of_step {g : Graph} {s t : SearchState} (h : g.step s = .next t) : g.Advances s t := by
  obtain ⟨answer, hdone, -⟩ | ⟨t', hnext, hadvance⟩ := g.step_cases s
  · cases h.symm.trans hdone
  · cases h.symm.trans hnext
    exact hadvance

/-- The loop ends with an answer after some steps. -/
inductive Ends (g : Graph) : SearchState → Nat → Option (List String) → Prop where
  | done {s : SearchState} {answer : Option (List String)} (h : g.step s = .done answer) :
    Ends g s 1 answer
  | next {s t : SearchState} {n : Nat} {answer : Option (List String)} (h : g.step s = .next t)
      (rest : Ends g t n answer) : Ends g s (n + 1) answer

def searchStart (g : Graph) : SearchState := ⟨[], [], g.ids⟩

def resume (g : Graph) (s : SearchState) : Option (List String) :=
  match g.search s.seen s.path with
  | .cycle ids => some ids
  | .seen seen => g.searchAll seen s.starts

/-- How often the nodes of a list that were not seen are opened, closed and looked at from. -/
def unseenCount (g : Graph) (seen : List String) : List String → Nat
  | [] => 0
  | id :: ids => (if id ∈ seen then 0 else (g.targets id).length + 1) + unseenCount g seen ids

/-- A bound on the steps that are left. -/
def stepsLeft (g : Graph) (s : SearchState) : Nat :=
  s.starts.length + pendingCount s.path + g.unseenCount s.seen g.ids + 1

theorem unseenCount_mono (g : Graph) (id : String) (seen ids : List String) :
    g.unseenCount (id :: seen) ids ≤ g.unseenCount seen ids := by
  induction ids with
  | nil => exact Nat.le_refl _
  | cons a ids ih =>
    simp only [unseenCount, List.mem_cons]
    by_cases ha : a ∈ seen
    · simpa [ha] using ih
    · by_cases hid : a = id <;> simp [ha, hid] <;> omega

theorem unseenCount_cons (g : Graph) {id : String} {seen ids : List String} (hmem : id ∈ ids)
    (hnew : id ∉ seen) :
    g.unseenCount (id :: seen) ids + ((g.targets id).length + 1) ≤ g.unseenCount seen ids := by
  induction ids with
  | nil => cases hmem
  | cons a ids ih =>
    simp only [unseenCount, List.mem_cons]
    by_cases hid : a = id
    · subst hid
      have hmono := g.unseenCount_mono a seen ids
      simp only [true_or, if_true, if_neg hnew]
      omega
    · have hrest := ih ((List.mem_cons.1 hmem).resolve_left (Ne.symm hid))
      by_cases ha : a ∈ seen
      · simp only [ha, or_true, if_true]
        omega
      · simp only [ha, hid, or_self, if_false]
        omega

theorem resume_nil (g : Graph) (seen starts : List String) :
    g.resume ⟨seen, [], starts⟩ = g.searchAll seen starts := by
  rw [resume, search]

theorem Concludes.resume_eq {g : Graph} {s : SearchState} {answer : Option (List String)}
    (h : g.Concludes s answer) : g.resume s = answer := by
  cases h with
  | none => exact g.resume_nil _ _
  | cycle known onPath =>
    rw [resume, search, dif_neg (by simp [known]), if_pos onPath]

theorem Advances.resume_eq {g : Graph} {s t : SearchState} (h : g.Advances s t) :
    g.resume s = g.resume t := by
  cases h with
  | pass old => rw [resume_nil, resume_nil, searchAll, if_pos old]
  | start new =>
    rw [resume_nil, searchAll, if_neg new]
    rfl
  | close => rw [resume, resume, search]
  | @skip seen starts pending id target path idle =>
    rw [resume, resume, search]
    by_cases known : g.hasNode target = false
    · rw [dif_pos known]
    · obtain ⟨hseen, hpath⟩ := idle (by simpa using known)
      rw [dif_neg known, if_neg hpath, dif_pos hseen]
  | enter known apart new =>
    rw [resume, resume, search, dif_neg (by simp [known]), if_neg apart, dif_neg new]

theorem Ends.resume_eq {g : Graph} {s : SearchState} {n : Nat} {answer : Option (List String)}
    (h : g.Ends s n answer) : g.resume s = answer := by
  induction h with
  | done hdone => exact (concludes_of_step hdone).resume_eq
  | next hnext _ ih => exact (advances_of_step hnext).resume_eq.trans ih

theorem Advances.stepsLeft_lt {g : Graph} {s t : SearchState}
    (hstarts : ∀ id ∈ s.starts, id ∈ g.ids) (h : g.Advances s t) :
    g.stepsLeft t < g.stepsLeft s := by
  cases h with
  | pass old =>
    simp only [stepsLeft, List.length_cons]
    omega
  | @start seen rest start new =>
    have hcount := g.unseenCount_cons (hstarts start List.mem_cons_self) new
    simp only [stepsLeft, List.length_cons, pendingCount, openNode]
    omega
  | close =>
    simp only [stepsLeft, pendingCount]
    omega
  | skip idle =>
    simp only [stepsLeft, pendingCount, List.length_cons]
    omega
  | enter known apart new =>
    have hcount := g.unseenCount_cons (mem_ids_iff_hasNode.2 known) new
    simp only [stepsLeft, pendingCount, List.length_cons, openNode]
    omega

theorem Advances.starts {g : Graph} {s t : SearchState} (h : g.Advances s t) :
    ∀ id ∈ t.starts, id ∈ s.starts := by
  cases h with
  | pass | start => exact fun id hid => List.mem_cons_of_mem _ hid
  | close | skip | enter => exact fun id hid => hid

/-- From every state the loop ends within its bound, with the answer of the search. -/
theorem exists_ends (g : Graph) (s : SearchState) (hstarts : ∀ id ∈ s.starts, id ∈ g.ids) :
    ∃ n, n ≤ g.stepsLeft s ∧ g.Ends s n (g.resume s) := by
  induction hn : g.stepsLeft s using Nat.strongRecOn generalizing s with
  | ind bound ih =>
    obtain ⟨answer, hdone, hanswer⟩ | ⟨t, hnext, hadvance⟩ := g.step_cases s
    · refine ⟨1, ?_, .done (hanswer.resume_eq ▸ hdone)⟩
      rw [← hn, stepsLeft]
      omega
    · have hlt := hadvance.stepsLeft_lt hstarts
      have hrest : ∀ id ∈ t.starts, id ∈ g.ids := fun id hid => hstarts id (hadvance.starts id hid)
      obtain ⟨n, hle, hends⟩ := ih (g.stepsLeft t) (hn ▸ hlt) t hrest rfl
      refine ⟨n + 1, by omega, .next hnext ?_⟩
      rw [hadvance.resume_eq]
      exact hends

theorem countP_source_cons {a : String} {ids : List String} (hnew : a ∉ ids) (es : List Edge) :
    es.countP (fun e => e.source == a) + es.countP (fun e => decide (e.source ∈ ids)) =
      es.countP fun e => decide (e.source ∈ a :: ids) := by
  induction es with
  | nil => rfl
  | cons e es ih =>
    rw [List.countP_cons, List.countP_cons, List.countP_cons, ← ih]
    by_cases he : e.source = a
    · simp [he, hnew]
      omega
    · simp [he]
      omega

/-- An edge is looked at from its source only. -/
theorem unseenCount_nil_le (g : Graph) {ids : List String} (hids : ids.Nodup) :
    g.unseenCount [] ids ≤ ids.length + g.edges.countP fun e => decide (e.source ∈ ids) := by
  induction ids with
  | nil => exact Nat.zero_le _
  | cons a ids ih =>
    obtain ⟨hnew, hrest⟩ := List.nodup_cons.1 hids
    have htargets : (g.targets a).length = g.edges.countP fun e => e.source == a := by
      rw [targets, List.length_map, outgoing, List.countP_eq_length_filter]
    have hle := ih hrest
    rw [unseenCount, if_neg List.not_mem_nil, htargets, ← countP_source_cons hnew, List.length_cons]
    omega

theorem stepsLeft_searchStart_le (g : Graph) :
    g.stepsLeft g.searchStart ≤ 2 * g.nodes.length + g.edges.length + 1 := by
  have hids := g.length_ids_le
  have hedges : (g.edges.countP fun e => decide (e.source ∈ g.ids)) ≤ g.edges.length :=
    List.countP_le_length
  have hcount := g.unseenCount_nil_le g.nodup_ids
  simp only [stepsLeft, searchStart, pendingCount]
  omega

theorem resume_searchStart (g : Graph) : g.resume g.searchStart = g.findCycle :=
  g.resume_nil [] g.ids

end Graph

end BlockRules
