set_option autoImplicit false

namespace BlockRules.Gathering

variable {α β γ ε : Type}

theorem exists_of_map_ok {r : Except ε α} {g : α → β} {y : β} (h : r.map g = .ok y) :
    ∃ x, r = .ok x ∧ g x = y := by
  cases r with
  | error e => cases h
  | ok x => exact ⟨x, rfl, Except.ok.inj h⟩

theorem exists_map_ok_iff {r : Except ε α} {g : α → β} :
    (∃ y, r.map g = .ok y) ↔ ∃ x, r = .ok x := by
  cases r <;> simp [Except.map]

theorem mapError_eq_ok_iff {r : Except ε α} {g : ε → β} {x : α} : r.mapError g = .ok x ↔ r = .ok x := by
  cases r with
  | error e => constructor <;> (intro h; cases h)
  | ok y => constructor <;> (intro h; cases h; rfl)

theorem exists_error_iff {r : Except ε α} : (∃ e, r = .error e) ↔ ¬ ∃ x, r = .ok x := by
  cases r <;> simp

theorem exists_of_bind_ok {r : Except ε α} {next : α → Except ε β} {y : β}
    (h : r.bind next = .ok y) : ∃ x, r = .ok x ∧ next x = .ok y := by
  cases r with
  | error e => cases h
  | ok x => exact ⟨x, rfl, h⟩

theorem zipIdx_pairwise_lt (xs : List α) : xs.zipIdx.Pairwise fun x y => x.2 < y.2 := by
  rw [← List.pairwise_map, List.zipIdx_map_snd]
  exact List.pairwise_lt_range'

theorem mapM_congr {f f' : α → Except ε β} {xs : List α} (h : ∀ x ∈ xs, f x = f' x) :
    xs.mapM f = xs.mapM f' := by
  induction xs with
  | nil => rfl
  | cons x xs ih =>
    rw [List.mapM_cons, List.mapM_cons, h x List.mem_cons_self]
    rw [ih fun y hy => h y (List.mem_cons_of_mem x hy)]

theorem flatMapM_congr {f f' : α → Except ε (List β)} {xs : List α} (h : ∀ x ∈ xs, f x = f' x) :
    xs.flatMapM f = xs.flatMapM f' := by
  induction xs with
  | nil => rfl
  | cons x xs ih =>
    rw [List.flatMapM_cons, List.flatMapM_cons, h x List.mem_cons_self]
    rw [ih fun y hy => h y (List.mem_cons_of_mem x hy)]

theorem flatMapM_cons_eq_ok {f : α → Except ε (List β)} {x : α} {xs : List α} {zs : List β}
    (h : (x :: xs).flatMapM f = .ok zs) :
    ∃ ys rest, f x = .ok ys ∧ xs.flatMapM f = .ok rest ∧ ys ++ rest = zs := by
  rw [List.flatMapM_cons] at h
  obtain ⟨ys, hys, hrest⟩ := exists_of_bind_ok h
  obtain ⟨rest, hxs, hzs⟩ := exists_of_bind_ok hrest
  exact ⟨ys, rest, hys, hxs, Except.ok.inj hzs⟩

theorem flatMapM_cons_eq_error {f : α → Except ε (List β)} {x : α} {xs : List α} {e : ε} :
    (x :: xs).flatMapM f = .error e ↔
      f x = .error e ∨ (∃ ys, f x = .ok ys) ∧ xs.flatMapM f = .error e := by
  rw [List.flatMapM_cons]
  cases f x with
  | error e' => simp [bind, Except.bind]
  | ok ys => cases xs.flatMapM f <;> simp [bind, Except.bind, pure, Except.pure]

theorem map_flatten_mapM (f : α → Except ε (List β)) (xs : List α) :
    (xs.mapM f).map List.flatten = xs.flatMapM f := by
  induction xs with
  | nil => rfl
  | cons x xs ih =>
    rw [List.mapM_cons, List.flatMapM_cons, ← ih]
    cases f x with
    | error e => rfl
    | ok ys => cases xs.mapM f <;> rfl

theorem mapM_map_result (f : α → Except ε β) (g : β → γ) (xs : List α) :
    (xs.mapM fun x => (f x).map g) = (xs.mapM f).map (List.map g) := by
  induction xs with
  | nil => rfl
  | cons x xs ih =>
    rw [List.mapM_cons, List.mapM_cons, ih]
    cases f x with
    | error e => rfl
    | ok y => cases xs.mapM f <;> rfl

theorem flatMapM_map_result (f : α → Except ε (List β)) (g : β → γ) (xs : List α) :
    (xs.flatMapM fun x => (f x).map (List.map g)) = (xs.flatMapM f).map (List.map g) := by
  rw [← map_flatten_mapM, ← map_flatten_mapM, mapM_map_result]
  cases xs.mapM f with
  | error e => rfl
  | ok yss => exact congrArg Except.ok List.map_flatten.symm

theorem flatMapM_append (f : α → Except ε (List β)) (xs ys : List α) :
    (xs ++ ys).flatMapM f = (xs.flatMapM f).bind fun as => (ys.flatMapM f).map (as ++ ·) := by
  induction xs with
  | nil =>
    change ys.flatMapM f = (ys.flatMapM f).map ([] ++ ·)
    cases ys.flatMapM f <;> rfl
  | cons x xs ih =>
    rw [List.cons_append, List.flatMapM_cons, List.flatMapM_cons, ih]
    cases f x with
    | error e => rfl
    | ok as =>
      cases xs.flatMapM f with
      | error e => rfl
      | ok bs =>
        change ((ys.flatMapM f).map (bs ++ ·)).map (as ++ ·) = (ys.flatMapM f).map (as ++ bs ++ ·)
        cases ys.flatMapM f with
        | error e => rfl
        | ok cs => exact congrArg Except.ok (List.append_assoc as bs cs).symm

theorem flatMapM_map (f : β → Except ε (List γ)) (g : α → β) (xs : List α) :
    (xs.map g).flatMapM f = xs.flatMapM fun x => f (g x) := by
  induction xs with
  | nil => rfl
  | cons x xs ih => rw [List.map_cons, List.flatMapM_cons, List.flatMapM_cons, ih]

theorem filter_of_flatMapM {f : α → Except ε (List β)} {p : β → Bool} {part : α → List β}
    {xs : List α} {zs : List β} (h : xs.flatMapM f = .ok zs)
    (hpart : ∀ x ∈ xs, ∀ ys, f x = .ok ys → ys.filter p = part x) :
    zs.filter p = xs.flatMap part := by
  induction xs generalizing zs with
  | nil =>
    cases h
    rfl
  | cons x xs ih =>
    obtain ⟨ys, rest, hys, hrest, rfl⟩ := flatMapM_cons_eq_ok h
    rw [List.filter_append, List.flatMap_cons, hpart x List.mem_cons_self ys hys]
    rw [ih hrest fun y hy => hpart y (List.mem_cons_of_mem x hy)]

theorem mapM_cons_eq_ok {f : α → Except ε β} {x : α} {xs : List α} {ys : List β} :
    (x :: xs).mapM f = .ok ys ↔ ∃ y rest, f x = .ok y ∧ xs.mapM f = .ok rest ∧ ys = y :: rest := by
  rw [List.mapM_cons]
  constructor
  · intro h
    obtain ⟨y, hy, hrest⟩ := exists_of_bind_ok h
    obtain ⟨rest, hxs, hys⟩ := exists_of_bind_ok hrest
    exact ⟨y, rest, hy, hxs, (Except.ok.inj hys).symm⟩
  · rintro ⟨y, rest, hy, hxs, rfl⟩
    rw [hy, hxs]
    rfl

theorem exists_mapM_ok_iff {f : α → Except ε β} {xs : List α} :
    (∃ ys, xs.mapM f = .ok ys) ↔ ∀ x ∈ xs, ∃ y, f x = .ok y := by
  induction xs with
  | nil =>
    refine iff_of_true ⟨[], rfl⟩ ?_
    intro x hx
    cases hx
  | cons x xs ih =>
    rw [List.forall_mem_cons, ← ih]
    constructor
    · rintro ⟨ys, h⟩
      obtain ⟨y, rest, hy, hxs, -⟩ := mapM_cons_eq_ok.1 h
      exact ⟨⟨y, hy⟩, rest, hxs⟩
    · rintro ⟨⟨y, hy⟩, rest, hxs⟩
      exact ⟨y :: rest, mapM_cons_eq_ok.2 ⟨y, rest, hy, hxs, rfl⟩⟩

theorem mem_of_mapM_ok {f : α → Except ε β} {xs : List α} {ys : List β} (h : xs.mapM f = .ok ys)
    (y : β) : y ∈ ys ↔ ∃ x ∈ xs, f x = .ok y := by
  induction xs generalizing ys with
  | nil =>
    cases h
    simp
  | cons x xs ih =>
    obtain ⟨y', rest, hy', hxs, rfl⟩ := mapM_cons_eq_ok.1 h
    have hfirst : y = y' ↔ f x = .ok y := by rw [hy', Except.ok.injEq, eq_comm]
    simp only [List.mem_cons, ih hxs, exists_eq_or_imp, hfirst]

theorem mem_of_flatMapM_ok {f : α → Except ε (List β)} {xs : List α} {zs : List β}
    (h : xs.flatMapM f = .ok zs) (z : β) : z ∈ zs ↔ ∃ x ∈ xs, ∃ ys, f x = .ok ys ∧ z ∈ ys := by
  rw [← map_flatten_mapM] at h
  obtain ⟨yss, hyss, rfl⟩ := exists_of_map_ok h
  simp only [List.mem_flatten, mem_of_mapM_ok hyss]
  constructor
  · rintro ⟨ys, ⟨x, hx, hys⟩, hz⟩
    exact ⟨x, hx, ys, hys, hz⟩
  · rintro ⟨x, hx, ys, hys, hz⟩
    exact ⟨ys, ⟨x, hx, hys⟩, hz⟩

theorem exists_flatMapM_ok_iff {f : α → Except ε (List β)} {xs : List α} :
    (∃ zs, xs.flatMapM f = .ok zs) ↔ ∀ x ∈ xs, ∃ ys, f x = .ok ys := by
  rw [← exists_mapM_ok_iff, ← map_flatten_mapM]
  constructor
  · rintro ⟨zs, h⟩
    obtain ⟨ys, hys, -⟩ := exists_of_map_ok h
    exact ⟨ys, hys⟩
  · rintro ⟨ys, hys⟩
    exact ⟨ys.flatten, by rw [hys]; rfl⟩

theorem flatMapM_ok {f : α → Except ε (List β)} {g : α → List β} {xs : List α}
    (h : ∀ x ∈ xs, f x = .ok (g x)) : xs.flatMapM f = .ok (xs.flatMap g) := by
  induction xs with
  | nil => rfl
  | cons x xs ih =>
    rw [List.flatMapM_cons, h x List.mem_cons_self, ih fun y hy => h y (List.mem_cons_of_mem x hy)]
    rfl

/-- Fewer visits gather fewer results, and the same only if those left out gather nothing. -/
theorem exists_flatMapM_of_sublist {f : α → Except ε (List β)} {xs xs' : List α} {zs : List β}
    (hsub : xs'.Sublist xs) (h : xs.flatMapM f = .ok zs) :
    ∃ zs', xs'.flatMapM f = .ok zs' ∧ zs'.Sublist zs ∧
      ((∀ x ∈ xs, f x ≠ .ok []) → zs' = zs → xs' = xs) := by
  induction hsub generalizing zs with
  | slnil => exact ⟨zs, h, .refl zs, fun _ _ => rfl⟩
  | @cons xs' xs x _ ih =>
    obtain ⟨ys, rest, hys, hrest, rfl⟩ := flatMapM_cons_eq_ok h
    obtain ⟨zs', hzs', hsub, -⟩ := ih hrest
    refine ⟨zs', hzs', hsub.trans (List.sublist_append_right ys rest), ?_⟩
    rintro hsome rfl
    have hlength := hsub.length_le
    rw [List.length_append] at hlength
    have hnil : ys = [] := List.eq_nil_of_length_eq_zero (by omega)
    exact absurd (hnil ▸ hys) (hsome x List.mem_cons_self)
  | @cons_cons xs' xs x _ ih =>
    obtain ⟨ys, rest, hys, hrest, rfl⟩ := flatMapM_cons_eq_ok h
    obtain ⟨rest', hrest', hsub, hsame⟩ := ih hrest
    refine ⟨ys ++ rest', ?_, hsub.append_left ys, fun hsome heq => ?_⟩
    · rw [List.flatMapM_cons, hys, hrest']
      rfl
    · rw [hsame (fun y hy => hsome y (List.mem_cons_of_mem x hy)) (List.append_cancel_left heq)]

theorem exists_mapM_of_perm {f : α → Except ε β} {xs xs' : List α} {ys : List β}
    (hperm : xs.Perm xs') (h : xs.mapM f = .ok ys) :
    ∃ ys', xs'.mapM f = .ok ys' ∧ ys'.Perm ys := by
  induction hperm generalizing ys with
  | nil => exact ⟨ys, h, .refl _⟩
  | cons x _ ih =>
    obtain ⟨y, rest, hy, hrest, rfl⟩ := mapM_cons_eq_ok.1 h
    obtain ⟨rest', hrest', hp⟩ := ih hrest
    exact ⟨y :: rest', mapM_cons_eq_ok.2 ⟨y, rest', hy, hrest', rfl⟩, hp.cons y⟩
  | swap x x' xs =>
    obtain ⟨y, tail, hy, htail, rfl⟩ := mapM_cons_eq_ok.1 h
    obtain ⟨y', rest, hy', hrest, rfl⟩ := mapM_cons_eq_ok.1 htail
    have hlater := mapM_cons_eq_ok.2 ⟨y, rest, hy, hrest, rfl⟩
    exact ⟨y' :: y :: rest, mapM_cons_eq_ok.2 ⟨y', _, hy', hlater, rfl⟩, .swap y y' rest⟩
  | trans _ _ ih ih' =>
    obtain ⟨mid, hmid, hp⟩ := ih h
    obtain ⟨ys', hys', hp'⟩ := ih' hmid
    exact ⟨ys', hys', hp'.trans hp⟩

theorem exists_flatMapM_congr {f f' : α → Except ε (List β)} {xs : List α} {zs : List β}
    (hf : ∀ x ∈ xs, ∀ ys, f x = .ok ys → ∃ ys', f' x = .ok ys' ∧ ys'.Perm ys)
    (h : xs.flatMapM f = .ok zs) : ∃ zs', xs.flatMapM f' = .ok zs' ∧ zs'.Perm zs := by
  induction xs generalizing zs with
  | nil => exact ⟨zs, h, .refl _⟩
  | cons x xs ih =>
    obtain ⟨ys, rest, hys, hrest, rfl⟩ := flatMapM_cons_eq_ok h
    obtain ⟨ys', hys', hp⟩ := hf x List.mem_cons_self ys hys
    obtain ⟨rest', hrest', hp'⟩ := ih (fun y hy => hf y (List.mem_cons_of_mem x hy)) hrest
    refine ⟨ys' ++ rest', ?_, hp.append hp'⟩
    rw [List.flatMapM_cons, hys', hrest']
    rfl

theorem exists_flatMapM_of_perm {f f' : α → Except ε (List β)} {xs xs' : List α} {zs : List β}
    (hperm : xs.Perm xs')
    (hf : ∀ x ∈ xs, ∀ ys, f x = .ok ys → ∃ ys', f' x = .ok ys' ∧ ys'.Perm ys)
    (h : xs.flatMapM f = .ok zs) : ∃ zs', xs'.flatMapM f' = .ok zs' ∧ zs'.Perm zs := by
  obtain ⟨mid, hmid, hp⟩ := exists_flatMapM_congr hf h
  rw [← map_flatten_mapM] at hmid
  obtain ⟨ys, hys, rfl⟩ := exists_of_map_ok hmid
  obtain ⟨ys', hys', hp'⟩ := exists_mapM_of_perm hperm hys
  refine ⟨ys'.flatten, ?_, hp'.flatten.trans hp⟩
  rw [← map_flatten_mapM, hys']
  rfl

theorem flatMapM_filter {f : α → Except ε (List β)} {keep : α → Bool} {xs : List α}
    (h : ∀ x ∈ xs, keep x = false → f x = .ok []) :
    (xs.filter keep).flatMapM f = xs.flatMapM f := by
  induction xs with
  | nil => rfl
  | cons x xs ih =>
    have hrest := ih fun y hy => h y (List.mem_cons_of_mem x hy)
    cases hx : keep x with
    | true =>
      rw [List.filter_cons_of_pos hx, List.flatMapM_cons, List.flatMapM_cons, hrest]
    | false =>
      rw [List.filter_cons_of_neg (by simp [hx]), hrest, List.flatMapM_cons]
      rw [h x List.mem_cons_self hx]
      cases xs.flatMapM f <;> rfl

/-- Where members have no part of some kind in what they gather, the others gather the same part. -/
theorem exists_flatMapM_filter {f : α → Except ε (List β)} {p : β → Bool} {keep : α → Bool} {xs : List α}
    {zs : List β} (h : xs.flatMapM f = .ok zs)
    (hpart : ∀ x ∈ xs, keep x = false → ∀ ys, f x = .ok ys → ys.filter p = []) :
    ∃ zs', (xs.filter keep).flatMapM f = .ok zs' ∧ zs'.filter p = zs.filter p := by
  induction xs generalizing zs with
  | nil => exact ⟨zs, h, rfl⟩
  | cons x xs ih =>
    obtain ⟨ys, rest, hys, hrest, rfl⟩ := flatMapM_cons_eq_ok h
    obtain ⟨rest', hrest', heq⟩ := ih hrest fun y hy => hpart y (List.mem_cons_of_mem x hy)
    cases hx : keep x with
    | true =>
      refine ⟨ys ++ rest', ?_, by rw [List.filter_append, List.filter_append, heq]⟩
      rw [List.filter_cons_of_pos hx, List.flatMapM_cons, hys, hrest']
      rfl
    | false =>
      refine ⟨rest', ?_, by rw [List.filter_append, hpart x List.mem_cons_self hx ys hys, heq, List.nil_append]⟩
      rw [List.filter_cons_of_neg (by simp [hx]), hrest']

theorem mapM_filter_map_filter {f : α → Except ε β} {keep : α → Bool} {counts : β → Bool}
    {xs : List α} (h : ∀ x ∈ xs, keep x = false → ∃ y, f x = .ok y ∧ counts y = false) :
    ((xs.filter keep).mapM f).map (List.filter counts) = (xs.mapM f).map (List.filter counts) := by
  induction xs with
  | nil => rfl
  | cons x xs ih =>
    have hrest := ih fun y hy => h y (List.mem_cons_of_mem x hy)
    cases hx : keep x with
    | true =>
      rw [List.filter_cons_of_pos hx, List.mapM_cons, List.mapM_cons]
      cases f x with
      | error e => rfl
      | ok y =>
        have hcons : ∀ r : Except ε (List β),
            (r >>= fun ys => pure (y :: ys)).map (List.filter counts) =
              (r.map (List.filter counts)).map fun zs => [y].filter counts ++ zs := by
          intro r
          cases r with
          | error e => rfl
          | ok ys => exact congrArg Except.ok (List.filter_append [y] ys)
        change (((xs.filter keep).mapM f) >>= fun ys => pure (y :: ys)).map _ =
          (xs.mapM f >>= fun ys => pure (y :: ys)).map _
        rw [hcons, hcons, hrest]
    | false =>
      obtain ⟨y, hy, hcounts⟩ := h x List.mem_cons_self hx
      rw [List.filter_cons_of_neg (by simp [hx]), hrest, List.mapM_cons, hy]
      cases xs.mapM f with
      | error e => rfl
      | ok ys => exact congrArg Except.ok (List.filter_cons_of_neg (by simp [hcounts])).symm

end BlockRules.Gathering
