import BlockRules.Library.Basic
import BlockRules.Proofs.Document.Parts
import BlockRules.Proofs.Text.Direct

set_option autoImplicit false

namespace BlockRules
open Checked Gathering

theorem Path.splitName_stem {name : List Char} (h : (splitName name).2 ≠ []) : (splitName name).1 ≠ [] := by
  unfold splitName at h ⊢
  dsimp only at h ⊢
  split
  · rename_i hwhole
    rw [if_pos hwhole] at h
    exact absurd rfl h
  · rename_i hcut
    simp only [Bool.or_eq_true, not_or] at hcut
    exact fun hnil => hcut.1.2 (List.isEmpty_iff.2 hnil)

theorem Path.stem_ne_empty {path : Path} {format : FileFormat} (h : FileFormat.ofSuffix? path.suffix = some format) :
    path.stem ≠ "" := by
  have hsuffix : (splitName path.name).2 ≠ [] := by
    intro hnil
    rw [suffix, hnil] at h
    cases h
  intro hstem
  exact splitName_stem hsuffix (String.ofList_eq_empty_iff.1 hstem)

theorem Text.eq_nil_of_decodeUtf8 {bytes : List UInt8} (h : decodeUtf8 bytes = some []) : bytes = [] := by
  cases bytes with
  | nil => rfl
  | cons b rest =>
    -- every kind of first byte begins a character
    unfold decodeUtf8 at h
    dsimp only at h
    repeat' split at h
    all_goals simp [Option.bind_eq_some_iff] at h

theorem nonempty_of_text {v : Value} {s : String} (h : text v = .ok s) (hv : v.isBlank = false) : s ≠ "" := by
  unfold text at h
  split at h
  · cases h
    exact beq_eq_false_iff_ne.1 hv
  · split at h
    · rename_i chars hchars
      cases h
      intro hempty
      rw [String.ofList_eq_empty_iff.1 hempty] at hchars
      rw [Text.eq_nil_of_decodeUtf8 hchars] at hv
      cases hv
    · cases h
  · cases h

namespace Document

/-- The text under which a library keeps a document: its identifier, or else its name. -/
def key (d : Document) : String := (given? d.id).getD d.name

def kept (d : Document) : Document := if d.id.isNone then { d with id := some d.key } else d

theorem key_of_id {d : Document} {id : String} (hid : d.id = some id) (hne : id ≠ "") : d.key = id := by
  have hgiven : given? d.id = some id := given?_eq_some.2 ⟨hid, hne⟩
  rw [key, hgiven, Option.getD_some]

theorem kept_of_id {d : Document} {id : String} (hid : d.id = some id) : d.kept = d := by
  rw [kept, hid]
  rfl

theorem kept_id (d : Document) : d.kept.id = some d.key ∨ d.id = some "" ∧ d.kept = d := by
  cases hid : d.id with
  | none => exact .inl (by simp [kept, hid])
  | some id =>
    rw [kept_of_id hid]
    by_cases hempty : id = ""
    · exact .inr ⟨by rw [hempty], rfl⟩
    · exact .inl (by rw [key_of_id hid hempty, hid])

theorem kept_key (d : Document) : d.kept.key = d.key := by
  cases hid : d.id with
  | none =>
    have hkey : d.key = d.name := by rw [key, hid]; rfl
    rw [kept, hid, hkey]
    by_cases hname : d.name = "" <;> simp [key, given?, Option.filter, hname]
  | some id => rw [kept_of_id hid]

def HasId (d : Document) : Prop := ∃ id, d.id = some id ∧ id ≠ ""

theorem HasId.id_eq {d : Document} (h : d.HasId) : d.id = some d.key := by
  obtain ⟨id, hid, hne⟩ := h
  rw [key_of_id hid hne, hid]

theorem HasId.key_ne {d : Document} (h : d.HasId) : d.key ≠ "" := by
  obtain ⟨id, hid, hne⟩ := h
  rw [key_of_id hid hne]
  exact hne

/-- A document can be kept, and has an identifier: that which it is kept under, or else an empty one. -/
structure HasKey (d : Document) : Prop where
  key_ne : d.key ≠ ""
  id : d.id = some d.key ∨ d.id = some ""

theorem hasKey_kept {d : Document} (h : d.key ≠ "") : d.kept.HasKey :=
  ⟨by rwa [d.kept_key], by rw [d.kept_key]; exact d.kept_id.imp_right fun ⟨hid, hkept⟩ => hkept.symm ▸ hid⟩

theorem kept_id_eq_empty_iff {d : Document} (h : d.key ≠ "") : d.kept.id = some "" ↔ d.id = some "" := by
  constructor
  · intro hempty
    obtain hid | ⟨hid, -⟩ := d.kept_id
    · exact absurd (Option.some.inj (hid.symm.trans hempty)) h
    · exact hid
  · intro hempty
    rw [kept_of_id hempty, hempty]

def last? (key : String) (ds : List Document) : Option Document := ds.reverse.find? fun d => d.key = key

theorem last?_cons (key : String) (d : Document) (ds : List Document) :
    last? key (d :: ds) = (last? key ds).or (if d.key = key then some d else none) := by
  rw [last?, List.reverse_cons, List.find?_append, List.find?_singleton]
  simp [last?]

end Document

namespace Library

def keepAll (l : Library) (ds : List Document) : Library :=
  { l with rules := ds.foldl (fun rules d => Keyed.put d.key d rules) l.rules }

theorem keepAll_append (l : Library) (ds ds' : List Document) : l.keepAll (ds ++ ds') = (l.keepAll ds).keepAll ds' := by
  simp only [keepAll, List.foldl_append]

theorem add_eq (l : Library) (d : Document) :
    l.add d = if d.key = "" then .error .unnamed else .ok (l.keepAll [d.kept], d.kept) := by
  unfold add
  rw [← Document.key, keepAll, List.foldl_cons, List.foldl_nil, d.kept_key]
  by_cases hempty : d.key = ""
  · rw [if_pos hempty, hempty]
    rfl
  · rw [if_neg hempty, given?_eq_some.2 ⟨rfl, hempty⟩]
    rfl

theorem add_hasId (l : Library) {d : Document} (h : d.HasId) : l.add d = .ok (l.keepAll [d], d) := by
  rw [add_eq, if_neg h.key_ne, Document.kept_of_id h.id_eq]

theorem get?_keepAll (l : Library) (ds : List Document) (key : String) :
    (l.keepAll ds).get? key = (Document.last? key ds).or (l.get? key) := by
  induction ds generalizing l with
  | nil => rfl
  | cons d ds ih =>
    change ((l.keepAll [d]).keepAll ds).get? key = _
    rw [ih, Document.last?_cons, Option.or_assoc]
    congr 1
    by_cases hkey : d.key = key
    · subst hkey
      rw [if_pos rfl]
      exact Keyed.get?_put_self l.rules d.key d
    · rw [if_neg hkey]
      exact Keyed.get?_put_of_ne (Ne.symm hkey) l.rules d

/-- With more documents a library holds the same if and only if it held the last of each identifier before. -/
theorem get?_keepAll_eq_iff (l : Library) (ds : List Document) :
    (∀ key, (l.keepAll ds).get? key = l.get? key) ↔
      ∀ key d, Document.last? key ds = some d → l.get? key = some d := by
  refine forall_congr' fun key => ?_
  rw [get?_keepAll]
  cases Document.last? key ds with
  | none => simp
  | some d => simp [eq_comm]

theorem fileId_ne_empty {path : Path} (h : path.stem ≠ "") (count number : Nat) : fileId path count number ≠ "" := by
  unfold fileId
  split
  · simp
  · exact h

theorem hasId_of_get? {mode : ReadMode} {fields : List (Scalar × Value)} {d : Document} (hread : d.ReadFrom mode fields)
    {v : Value} (hv : Value.get? fields "id" = some v) (hblank : v.isBlank = false) : d.HasId := by
  have hid : nullable text v = .ok d.id := (FieldName.optional_eq_ok_iff hv).1 hread.id
  unfold nullable at hid
  split at hid
  · cases hblank
  · obtain ⟨id, htext, hsome⟩ := exists_of_map_ok hid
    exact ⟨id, hsome.symm, nonempty_of_text htext hblank⟩

/-- A file of direct characters is read as the text that was meant. -/
theorem readFile_of_allDirect {files : Files} {path : Path} {format : FileFormat} {text : List Char}
    (hshort : files.isTooLong path = false) (hfound : files.find? path = some (.file (Text.bytes text)))
    (hformat : FileFormat.ofSuffix? path.suffix = some format) (htext : Text.AllDirect text) :
    readFile files path = readText format text := by
  rw [readFile, hshort, if_neg Bool.false_ne_true, hfound, hformat]
  dsimp only
  rw [Text.decodeUtf8_bytes htext]
  dsimp only
  rw [Text.withLineFeeds_of_allDirect htext]

theorem hasId_of_readItem {root : String} {path : Path} {count number : Nat} {v : Value} {d : Document}
    (hstem : path.stem ≠ "") (h : readItem root path count number v = .ok d) : d.HasId := by
  cases v with
  | object fields =>
    obtain ⟨fields', heq, hread⟩ := Document.exists_of_ofValue (mapError_eq_ok_iff.1 h)
    cases heq
    split at hread
    · refine hasId_of_get? hread (Value.get?_put_self fields "id" _) ?_
      exact beq_eq_false_iff_ne.2 (fileId_ne_empty hstem count number)
    · rename_i hnamed
      cases hid : Value.get? fields "id" with
      | none => exact absurd (by rw [hid]; rfl) hnamed
      | some v =>
        rw [hid, Option.getD_some] at hnamed
        exact hasId_of_get? hread hid (Bool.eq_false_iff.2 hnamed)
  | _ => cases h

end Library

end BlockRules
