import BlockRules.Proofs.Library.Filing
import Mathlib.Data.List.Permutation

set_option autoImplicit false

/-!
# Loads that fail

The documents of a file are kept as they are read. When an item cannot be read, those before it are in the library
already, although the load as a whole is reported to have failed.
-/
namespace BlockRules.Library
open Gathering

/-- The documents of the items before the first that cannot be read, and why it cannot. -/
def readItems (root : String) (path : Path) (count number : Nat) : List Value → List Document × Option LoadError
  | [] => ([], none)
  | item :: rest =>
    match readItem root path count number item with
    | .error e => ([], some e)
    | .ok d =>
      let (ds, e) := readItems root path count (number + 1) rest
      (d :: ds, e)

def outcome (ds : List Document) : Option LoadError → Except LoadError (List Document)
  | none => .ok ds
  | some e => .error e

theorem addItems_eq {path : Path} (hstem : path.stem ≠ "") (root : String) (count : Nat) (l : Library) (number : Nat)
    (items : List Value) :
    addItems root path count l number items =
      (l.keepAll (readItems root path count number items).1,
        outcome (readItems root path count number items).1 (readItems root path count number items).2) := by
  induction items generalizing l number with
  | nil => rfl
  | cons item rest ih =>
    rw [addItems, readItems]
    cases hitem : readItem root path count number item with
    | error e => rfl
    | ok d =>
      have hadd : (Except.ok d >>= l.add) = .ok (l.keepAll [d], d) := l.add_hasId (hasId_of_readItem hstem hitem)
      rw [hadd]
      dsimp only
      rw [ih]
      cases (readItems root path count (number + 1) rest).2 <;> rfl

theorem exists_of_readItems_error {root : String} {path : Path} {count number : Nat} {items : List Value}
    {ds : List Document} {e : LoadError} (h : readItems root path count number items = (ds, some e)) :
    ∃ before item rest, items = before ++ item :: rest ∧
      (before.zipIdx number).map (fun x => readItem root path count x.2 x.1) = ds.map .ok ∧
      readItem root path count (number + before.length) item = .error e := by
  induction items generalizing number ds with
  | nil => cases h
  | cons item rest ih =>
    rw [readItems] at h
    cases hitem : readItem root path count number item with
    | error e' =>
      rw [hitem] at h
      cases h
      exact ⟨[], item, rest, rfl, rfl, hitem⟩
    | ok d =>
      rw [hitem] at h
      obtain ⟨hds, he⟩ := Prod.mk.inj h
      obtain ⟨before, failed, after, hrest, hread, hfailed⟩ := ih (Prod.ext rfl he)
      refine ⟨item :: before, failed, after, by rw [hrest]; rfl, ?_, ?_⟩
      · rw [← hds, List.zipIdx_cons, List.map_cons, List.map_cons, hread]
        exact congrArg (· :: _) hitem
      · rw [← hfailed, List.length_cons]
        congr 1
        omega

theorem hasId_of_mem_readItems {path : Path} (hstem : path.stem ≠ "") {root : String} {count number : Nat}
    {items : List Value} {d : Document} (h : d ∈ (readItems root path count number items).1) : d.HasId := by
  induction items generalizing number with
  | nil => cases h
  | cons item rest ih =>
    rw [readItems] at h
    cases hitem : readItem root path count number item with
    | error e => simp [hitem] at h
    | ok d' =>
      simp only [hitem, List.mem_cons] at h
      obtain rfl | h := h
      · exact hasId_of_readItem hstem hitem
      · exact ih h

theorem ofSuffix?_of_readFile {files : Files} {path : Path} {v : Value} (h : readFile files path = .ok v) :
    ∃ format, FileFormat.ofSuffix? path.suffix = some format := by
  cases hformat : FileFormat.ofSuffix? path.suffix with
  | some format => exact ⟨format, rfl⟩
  | none =>
    unfold readFile at h
    split at h
    · cases h
    · cases hfound : files.find? path <;> simp [hfound, hformat] at h

/-- The documents of a file up to the first item that cannot be read, and why the rest of it cannot be loaded. -/
def readDocuments (files : Files) (path : Path) : List Document × Option LoadError :=
  match readFile files path with
  | .error e => ([], some e)
  | .ok v => readItems files.root path (itemsOf v).length 1 (itemsOf v)

theorem loadFile_eq (l : Library) (files : Files) (path : Path) :
    l.loadFile files path = (l.keepAll (readDocuments files path).1,
      outcome (readDocuments files path).1 (readDocuments files path).2) := by
  unfold loadFile readDocuments
  cases h : readFile files path with
  | error e => rfl
  | ok v =>
    obtain ⟨format, hformat⟩ := ofSuffix?_of_readFile h
    exact addItems_eq (Path.stem_ne_empty hformat) _ _ _ _ _

theorem hasId_of_mem_readDocuments {files : Files} {path : Path} {d : Document}
    (h : d ∈ (readDocuments files path).1) : d.HasId := by
  unfold readDocuments at h
  cases hread : readFile files path with
  | error e => simp [hread] at h
  | ok v =>
    obtain ⟨format, hformat⟩ := ofSuffix?_of_readFile hread
    rw [hread] at h
    exact hasId_of_mem_readItems (Path.stem_ne_empty hformat) h

/-- A load fails either at its file, and the library stays as it was, or at some item, and the documents before it
are kept. Then the library holds what it held if and only if it held these documents already. -/
theorem loadFile_failed {l l' : Library} {files : Files} {path : Path} {e : LoadError}
    (h : l.loadFile files path = (l', .error e)) :
    (readFile files path = .error e ∧ l' = l) ∨
    ∃ v before item rest ds, readFile files path = .ok v ∧ itemsOf v = before ++ item :: rest ∧
      (before.zipIdx 1).map (fun x => readItem files.root path (itemsOf v).length x.2 x.1) = ds.map .ok ∧
      readItem files.root path (itemsOf v).length (1 + before.length) item = .error e ∧ l' = l.keepAll ds ∧
      ((∀ key, l'.get? key = l.get? key) ↔ ∀ key d, Document.last? key ds = some d → l.get? key = some d) := by
  rw [loadFile_eq] at h
  obtain ⟨rfl, hfailed⟩ := Prod.mk.inj h
  unfold readDocuments at hfailed ⊢
  cases hread : readFile files path with
  | error e' =>
    rw [hread] at hfailed
    cases hfailed
    exact .inl ⟨rfl, rfl⟩
  | ok v =>
    rw [hread] at hfailed
    dsimp only at hfailed ⊢
    generalize hitems : readItems files.root path (itemsOf v).length 1 (itemsOf v) = read at hfailed
    obtain ⟨ds, failure⟩ := read
    cases failure with
    | none => cases hfailed
    | some e' =>
      cases hfailed
      obtain ⟨before, item, rest, hsplit, hbefore, hitem⟩ := exists_of_readItems_error hitems
      exact .inr ⟨v, before, item, rest, ds, rfl, hsplit, hbefore, hitem, rfl, l.get?_keepAll_eq_iff ds⟩

def pairFiles : Files :=
  ⟨"rules", [(["pair.json"], .file ("[\x7b\"name\": \"First\"\x7d, 1]".toList.map fun c => UInt8.ofNat c.toNat))]⟩

def pairPath : Path := ⟨["pair.json"]⟩

def pairFirst : Document := { Document.ofGraph ⟨[], []⟩ with id := some "pair-1", name := "First" }

theorem readText_pair : readText .json "[\x7b\"name\": \"First\"\x7d, 1]".toList =
    .ok (.list [.object [(.text "name", .text "First")], .int 1]) := by
  cbv

theorem readFile_pair :
    readFile pairFiles pairPath = .ok (.list [.object [(.text "name", .text "First")], .int 1]) :=
  (readFile_of_allDirect (by decide) rfl (by decide) (by decide)).trans readText_pair

theorem loadFile_pair : (empty none).loadFile pairFiles pairPath =
    (⟨none, [("pair-1", pairFirst)]⟩, .error (.notMapping "rules/pair.json")) := by
  rw [loadFile, readFile_pair]
  rfl

theorem pair_failed : ∃ l' ds,
    (empty none).loadFile pairFiles pairPath = (l', .error (.notMapping "rules/pair.json")) ∧
    l' = (empty none).keepAll ds ∧
    ((∀ key, l'.get? key = (empty none).get? key) ↔
      ∀ key d, Document.last? key ds = some d → (empty none).get? key = some d) := by
  obtain ⟨hfailed, -⟩ | ⟨-, -, -, -, ds, -, -, -, -, hkept, hiff⟩ := loadFile_failed loadFile_pair
  · rw [readFile_pair] at hfailed
    cases hfailed
  · exact ⟨_, ds, loadFile_pair, hkept, hiff⟩

/-- The load fails at the number, and the rule before it is in the library. -/
theorem pair_halfLoaded : ∃ l', (empty none).loadFile pairFiles pairPath =
      (l', .error (.notMapping "rules/pair.json")) ∧
    (empty none).get? "pair-1" = none ∧ l'.get? "pair-1" = some pairFirst :=
  ⟨_, loadFile_pair, rfl, rfl⟩

end BlockRules.Library
