import BlockRules.Proofs.Library.Loading

set_option autoImplicit false

/-!
# Calls of a library

Whatever a library is called for, it keeps more documents, each under a text that is not empty. That is the
document's own identifier, except where a document was added with an empty one: that is kept under its name, and
nothing is found under its identifier.
-/
namespace BlockRules.Library

inductive Call where
  | loadFile (files : Files) (path : Path)
  | loadDirectory (files : Files) (directory : Option Path)
  | add (d : Document)

def Call.run (l : Library) : Call → Library × Except LoadError (List Document)
  | loadFile files path => l.loadFile files path
  | loadDirectory files directory => l.loadDirectory files directory
  | add d =>
    match l.add d with
    | .ok (l, d) => (l, .ok [d])
    | .error e => (l, .error e)

def afterCalls (l : Library) (calls : List Call) : Library := calls.foldl (fun l c => (c.run l).1) l

theorem exists_loadFiles_eq (files : Files) (l : Library) (paths : List Path) :
    ∃ ds : List Document, (∀ d ∈ ds, d.HasId) ∧ (loadFiles files l paths).1 = l.keepAll ds := by
  induction paths generalizing l with
  | nil => exact ⟨[], by simp, rfl⟩
  | cons path rest ih =>
    have hids : ∀ d ∈ (readDocuments files path).1, d.HasId := fun _ hd => hasId_of_mem_readDocuments hd
    obtain ⟨ds, hds, hrest⟩ := ih (l.keepAll (readDocuments files path).1)
    have hall : ∀ d ∈ (readDocuments files path).1 ++ ds, d.HasId := by
      intro d hd
      exact (List.mem_append.1 hd).elim (hids d) (hds d)
    rw [loadFiles, loadFile_eq]
    cases (readDocuments files path).2 with
    | none => exact ⟨_, hall, by rw [keepAll_append, ← hrest]; rfl⟩
    | some e =>
      dsimp only [outcome]
      split
      · exact ⟨_, hall, by rw [keepAll_append, ← hrest]⟩
      · exact ⟨_, hids, rfl⟩

theorem exists_loadDirectory_eq (l : Library) (files : Files) (directory : Option Path) :
    ∃ ds : List Document, (∀ d ∈ ds, d.HasId) ∧ (l.loadDirectory files directory).1 = l.keepAll ds := by
  have hnone : ∃ ds : List Document, (∀ d ∈ ds, d.HasId) ∧ l = l.keepAll ds := ⟨[], by simp, rfl⟩
  unfold loadDirectory
  split
  · exact hnone
  · split
    · exact hnone
    · split
      · exact hnone
      · exact hnone
      · exact exists_loadFiles_eq files l _

/-- A document that a call brings: it is kept under its own identifier, unless it is added with an empty one. -/
structure BroughtBy (c : Call) (d : Document) : Prop where
  key_ne : d.key ≠ ""
  id : d.id = some d.key ∨ d.id = some "" ∧ c = .add d

theorem BroughtBy.of_hasId {c : Call} {d : Document} (h : d.HasId) : BroughtBy c d := ⟨h.key_ne, .inl h.id_eq⟩

theorem exists_run_eq (l : Library) (c : Call) :
    ∃ ds, (∀ d ∈ ds, BroughtBy c d) ∧ (c.run l).1 = l.keepAll ds := by
  cases c with
  | loadFile files path =>
    refine ⟨(readDocuments files path).1, fun d hd => .of_hasId (hasId_of_mem_readDocuments hd), ?_⟩
    rw [Call.run, loadFile_eq]
  | loadDirectory files directory =>
    obtain ⟨ds, hds, hrun⟩ := exists_loadDirectory_eq l files directory
    exact ⟨ds, fun d hd => .of_hasId (hds d hd), hrun⟩
  | add d =>
    rw [Call.run, add_eq]
    by_cases hempty : d.key = ""
    · rw [if_pos hempty]
      exact ⟨[], by simp, rfl⟩
    · rw [if_neg hempty]
      refine ⟨[d.kept], fun d' hd => ?_, rfl⟩
      rw [List.mem_singleton.1 hd]
      refine ⟨(Document.hasKey_kept hempty).key_ne, ?_⟩
      rw [d.kept_key]
      exact d.kept_id.imp_right fun ⟨hid, hkept⟩ => by rw [hkept]; exact ⟨hid, rfl⟩

theorem BroughtBy.hasKey {c : Call} {d : Document} (h : BroughtBy c d) : d.HasKey :=
  ⟨h.key_ne, h.id.imp_right And.left⟩

/-- No two documents are kept under one key, each is kept under its own, and all of them have some property. -/
structure Keeps (P : Document → Prop) (l : Library) : Prop where
  nodup : l.rules.keys.Nodup
  own : ∀ key d, (key, d) ∈ l.rules → d.key = key ∧ P d

theorem keeps_empty (P : Document → Prop) (directory : Option Path) : (empty directory).Keeps P :=
  ⟨List.nodup_nil, fun _ _ h => absurd h List.not_mem_nil⟩

theorem Keeps.mono {P Q : Document → Prop} {l : Library} (h : l.Keeps P) (hPQ : ∀ d, P d → Q d) : l.Keeps Q :=
  ⟨h.nodup, fun key d hd => (h.own key d hd).imp_right (hPQ d)⟩

theorem Keeps.keepAll {P : Document → Prop} {l : Library} (h : l.Keeps P) {ds : List Document}
    (hds : ∀ d ∈ ds, P d) : (l.keepAll ds).Keeps P := by
  induction ds generalizing l with
  | nil => exact h
  | cons d ds ih =>
    obtain ⟨hd, hds⟩ := List.forall_mem_cons.1 hds
    have hone : (l.keepAll [d]).Keeps P := by
      refine ⟨Keyed.nodup_keys_put h.nodup d.key d, fun key d' hd' => ?_⟩
      obtain heq | hd' := Keyed.mem_put hd'
      · cases heq
        exact ⟨rfl, hd⟩
      · exact h.own key d' hd'
    exact ih hone hds

/-- A property of all documents that calls bring is one of all that a library keeps. -/
theorem Keeps.afterCalls {P : Document → Prop} {l : Library} (h : l.Keeps P) {calls : List Call}
    (hcalls : ∀ c ∈ calls, ∀ d, BroughtBy c d → P d) : (l.afterCalls calls).Keeps P := by
  induction calls generalizing l with
  | nil => exact h
  | cons c calls ih =>
    obtain ⟨hc, hcalls⟩ := List.forall_mem_cons.1 hcalls
    obtain ⟨ds, hds, hrun⟩ := exists_run_eq l c
    have hone : (c.run l).1.Keeps P := by
      rw [hrun]
      exact h.keepAll fun d hd => hc d (hds d hd)
    exact ih hone hcalls

namespace Keeps

variable {l : Library}

theorem get?_eq_some_iff {P : Document → Prop} (h : l.Keeps P) {key : String} {d : Document} :
    l.get? key = some d ↔ (key, d) ∈ l.rules :=
  ⟨Keyed.mem_of_get?, Keyed.get?_of_mem h.nodup⟩

theorem found_iff (h : l.Keeps Document.HasKey) {d : Document} (hd : d ∈ l.documents) :
    (∃ id, d.id = some id ∧ l.get? id = some d) ↔ d.id ≠ some "" := by
  obtain ⟨⟨key, d'⟩, hmem, heq⟩ := List.mem_map.1 hd
  obtain rfl : d' = d := heq
  obtain ⟨rfl, hkey, hid⟩ := h.own key d' hmem
  constructor
  · rintro ⟨id, hsome, hfound⟩ hempty
    obtain rfl : id = "" := Option.some.inj (hsome.symm.trans hempty)
    exact hkey (h.own "" d' (h.get?_eq_some_iff.1 hfound)).1
  · intro hne
    exact ⟨d'.key, hid.resolve_right hne, h.get?_eq_some_iff.2 hmem⟩

theorem nodup_ids (h : l.Keeps Document.HasKey) : ((l.documents.map (·.id)).filter (· ≠ some "")).Nodup := by
  have hkeys : l.rules.Pairwise fun x y => x.1 ≠ y.1 := List.pairwise_map.1 h.nodup
  rw [documents, List.map_map, List.filter_map]
  refine List.pairwise_map.2 ((hkeys.filter _).imp_of_mem ?_)
  have hid : ∀ x ∈ l.rules.filter fun x => decide (x.2.id ≠ some ""), x.2.id = some x.1 := by
    intro x hx
    obtain ⟨hmem, hne⟩ := List.mem_filter.1 hx
    obtain ⟨hkey, -, hid⟩ := h.own x.1 x.2 hmem
    exact hkey ▸ hid.resolve_right (of_decide_eq_true hne)
  intro x y hx hy hne heq
  exact hne (Option.some.inj ((hid x hx).symm.trans (heq.trans (hid y hy))))

theorem found_added_iff (h : l.Keeps Document.HasKey) {l' : Library} {d d' : Document}
    (hadd : l.add d = .ok (l', d')) : (∃ id, d'.id = some id ∧ l'.get? id = some d') ↔ d.id ≠ some "" := by
  rw [add_eq] at hadd
  split at hadd
  · cases hadd
  · rename_i hkey
    cases hadd
    have hkeeps : (l.keepAll [d.kept]).Keeps Document.HasKey :=
      h.keepAll (List.forall_mem_singleton.2 (Document.hasKey_kept hkey))
    have hmem : d.kept ∈ (l.keepAll [d.kept]).documents :=
      List.mem_map_of_mem (Keyed.mem_of_get? (Keyed.get?_put_self l.rules d.kept.key d.kept))
    rw [hkeeps.found_iff hmem, Ne, Document.kept_id_eq_empty_iff hkey]

end Keeps

/-- After any calls, whether they failed or not, documents are kept under different texts that are not empty, each
under its identifier, except those that were added with an empty one. So all but these are found under their
identifiers, which are different, and so is what is added. -/
theorem afterCalls_ids (directory : Option Path) (calls : List Call) :
    let l := (empty directory).afterCalls calls
    l.rules.keys.Nodup ∧
    (∀ key d, l.get? key = some d →
      key ≠ "" ∧ (d.id = some key ∨ d.id = some "" ∧ d.name = key ∧ .add d ∈ calls)) ∧
    (∀ d ∈ l.documents, (∃ id, d.id = some id ∧ l.get? id = some d) ↔ d.id ≠ some "") ∧
    ((l.documents.map (·.id)).filter (· ≠ some "")).Nodup ∧
    ∀ d l' d', l.add d = .ok (l', d') → ((∃ id, d'.id = some id ∧ l'.get? id = some d') ↔ d.id ≠ some "") := by
  intro l
  have hkeeps : l.Keeps fun d => ∃ c ∈ calls, BroughtBy c d :=
    (keeps_empty _ directory).afterCalls fun c hc d hd => ⟨c, hc, hd⟩
  have hkeys : l.Keeps Document.HasKey := hkeeps.mono fun d ⟨c, _, hd⟩ => hd.hasKey
  refine ⟨hkeys.nodup, ?_, fun d hd => hkeys.found_iff hd, hkeys.nodup_ids, fun d l' d' => hkeys.found_added_iff⟩
  intro key d hfound
  obtain ⟨rfl, c, hc, hkey, hid⟩ := hkeeps.own key d (hkeeps.get?_eq_some_iff.1 hfound)
  refine ⟨hkey, hid.imp_right fun ⟨hempty, hadd⟩ => ⟨hempty, ?_, hadd ▸ hc⟩⟩
  rw [Document.key, hempty]
  rfl

def blankId : Document := { Document.ofGraph ⟨[], []⟩ with id := some "", name := "Fan" }

/-- A document with an empty identifier is kept under its name, and keeps the empty identifier. -/
theorem blankId_keptUnderName : ((empty none).afterCalls [.add blankId]).get? "Fan" = some blankId ∧
    blankId.id = some "" ∧ ((empty none).afterCalls [.add blankId]).get? "" = none :=
  ⟨rfl, rfl, rfl⟩

end BlockRules.Library
