import BlockRules.Document.Writing
import BlockRules.Proofs.Gathering

set_option autoImplicit false

namespace BlockRules

namespace Checked

variable {α β : Type}

theorem exists_of_app_ok {f : Checked (α → β)} {x : Checked α} {y : β} (h : app f x = .ok y) :
    ∃ g a, f = .ok g ∧ x = .ok a ∧ g a = y := by
  cases f with
  | error ps => cases x <;> cases h
  | ok g =>
    cases x with
    | error qs => cases h
    | ok a => exact ⟨g, a, rfl, rfl, Except.ok.inj h⟩

theorem at_eq_ok_iff {place : Place} {x : Checked α} {a : α} : at_ place x = .ok a ↔ x = .ok a :=
  Gathering.mapError_eq_ok_iff

theorem all_eq_ok_iff {xs : List (Checked α)} {as : List α} : all xs = .ok as ↔ xs = as.map .ok := by
  induction xs generalizing as with
  | nil => cases as <;> simp [all]
  | cons x xs ih =>
    constructor
    · intro h
      obtain ⟨g, rest, hx, hxs, rfl⟩ := exists_of_app_ok h
      cases x with
      | error ps => cases hx
      | ok a =>
        cases hx
        rw [ih.1 hxs]
        rfl
    · rintro h
      rw [h]
      exact all_map_ok as

theorem text_text (s : String) : text (.text s) = .ok s := rfl

theorem items_eq_ok_iff {read : Value → Checked α} {vs : List Value} {as : List α} :
    items read vs = .ok as ↔ vs.map read = as.map .ok := by
  rw [items, all_eq_ok_iff]
  suffices h : ∀ start, (vs.zipIdx start).map (fun item => at_ (.index item.2) (read item.1)) = as.map .ok ↔
      vs.map read = as.map .ok from h 0
  induction vs generalizing as with
  | nil => simp
  | cons v vs ih =>
    intro start
    cases as with
    | nil => simp
    | cons a as => simp [at_eq_ok_iff, ih]

theorem items_map_write {read : Value → Checked α} {write : α → Value} {as : List α}
    (h : ∀ a ∈ as, read (write a) = .ok a) : items read (as.map write) = .ok as := by
  rw [items_eq_ok_iff, List.map_map]
  exact List.map_congr_left h

theorem exists_of_items_ok {read : Value → Checked α} {vs : List Value} {as : List α}
    (h : items read vs = .ok as) {a : α} (ha : a ∈ as) : ∃ v ∈ vs, read v = .ok a := by
  have hok : (Except.ok a : Checked α) ∈ vs.map read := by
    rw [items_eq_ok_iff.1 h]
    exact List.mem_map_of_mem ha
  exact List.mem_map.1 hok

theorem record_eq_ok_iff {mode : ReadMode} {v : Value} {fields : List (Scalar × Value)} :
    record mode v = .ok fields ↔ v = .object fields := by
  constructor
  · intro h
    cases v <;> cases h
    rfl
  · rintro rfl
    rfl

theorem exists_of_nullable_ok {read : Value → Checked α} {v : Value} {a : α}
    (h : nullable read v = .ok (some a)) : read v = .ok a := by
  unfold nullable at h
  split at h
  · cases h
  · cases hread : read v with
    | error ps => simp [hread, Except.map] at h
    | ok b =>
      rw [hread] at h
      cases h
      rfl

end Checked

namespace FieldName

variable {α : Type} {f : FieldName} {read : Value → Checked α}

theorem exists_of_find? {fields : List (Scalar × Value)} {name : String} {v : Value}
    (h : f.find? fields = some (name, v)) : Value.get? fields name = some v := by
  unfold find? at h
  split at h
  · cases h
    assumption
  · obtain ⟨w, hw, heq⟩ := Option.map_eq_some_iff.1 h
    cases heq
    exact hw

theorem exists_of_optional_ok {fields : List (Scalar × Value)} {absent a : α}
    (h : f.optional absent read fields = .ok a) :
    (∃ name v, Value.get? fields name = some v ∧ read v = .ok a) ∨ a = absent := by
  unfold optional at h
  split at h
  · exact .inl ⟨_, _, exists_of_find? ‹_›, Checked.at_eq_ok_iff.1 h⟩
  · exact .inr (Except.ok.inj h).symm

/-- A field that is there under its first name is what the value there is read as. -/
theorem optional_eq_ok_iff {fields : List (Scalar × Value)} {absent a : α} {v : Value}
    (h : Value.get? fields f.main = some v) : f.optional absent read fields = .ok a ↔ read v = .ok a := by
  rw [optional, find?, h]
  exact Checked.at_eq_ok_iff

end FieldName

namespace Value

def namedFields (fields : List (String × Value)) : List (Scalar × Value) := fields.map fun f => (.text f.1, f.2)

theorem get?_namedFields (fields : List (String × Value)) (name : String) :
    get? (namedFields fields) name = fields.lookup name := by
  induction fields with
  | nil => rfl
  | cons f fields ih =>
    obtain ⟨key, content⟩ := f
    have hsame : (Scalar.text key).same (.text name) = (name == key) := BEq.comm
    rw [List.lookup_cons, get?, field?, namedFields, List.map_cons, List.find?_cons, hsame]
    cases name == key with
    | true => rfl
    | false => exact ih

theorem get?_put_self (fields : List (Scalar × Value)) (name : String) (content : Value) :
    get? (put fields (.text name) content) name = some content := by
  induction fields with
  | nil => simp [put, get?, field?, Scalar.same]
  | cons f fields ih =>
    unfold put
    split
    · rename_i hsame
      simp [get?, field?, hsame]
    · rename_i hsame
      rw [get?, field?, List.find?_cons, Bool.eq_false_iff.2 hsame]
      exact ih

theorem lookup_whenSet {α : Type} (name key : String) (write : α → Value) (x : Option α) :
    (whenSet name write x).lookup key = if key == name then x.map write else none := by
  cases x with
  | none => simp [whenSet]
  | some a => simp [whenSet, List.lookup_cons, List.lookup_nil]; split <;> simp_all

end Value

namespace FieldName
open Value Checked

variable {α : Type} {f : FieldName} {fields : List (String × Value)}

theorem required_named {read : Value → Checked α} {v : Value} {a : α} (h : fields.lookup f.main = some v)
    (hread : read v = .ok a) : f.required read (namedFields fields) = .ok a := by
  rw [required, find?, get?_namedFields, h]
  exact at_eq_ok_iff.2 hread

theorem optional_named {read : Value → Checked α} {absent a : α} {v : Value}
    (h : fields.lookup f.main = some v) (hread : read v = .ok a) :
    f.optional absent read (namedFields fields) = .ok a := by
  exact (optional_eq_ok_iff ((get?_namedFields fields f.main).trans h)).2 hread

theorem optional_absent {read : Value → Checked α} {absent : α} (hmain : fields.lookup f.main = none)
    (hother : fields.lookup f.other = none) : f.optional absent read (namedFields fields) = .ok absent := by
  rw [optional, find?, get?_namedFields, get?_namedFields, hmain, hother]
  rfl

theorem optional_whenSet {read : Value → Checked α} {write : α → Value} {x : Option α}
    (hmain : fields.lookup f.main = x.map write) (hother : f.other = f.main ∨ fields.lookup f.other = none)
    (hread : ∀ a ∈ x, nullable read (write a) = .ok (some a)) :
    f.optional none (nullable read) (namedFields fields) = .ok x := by
  cases x with
  | some a => exact optional_named hmain (hread a rfl)
  | none =>
    refine optional_absent hmain ?_
    obtain heq | hnone := hother
    · rw [heq]
      exact hmain
    · exact hnone

end FieldName

end BlockRules
