import BlockRules.Document.Reading
import BlockRules.Proofs.Gathering
import BlockRules.Proofs.Schema.Field

set_option autoImplicit false

namespace BlockRules.Document
open Checked FieldName Gathering

/-- Every part of a document is what is read from the field for it. -/
structure ReadFrom (mode : ReadMode) (fields : List (Scalar × Value)) (d : Document) : Prop where
  graph : Graph.ofFields mode fields = .ok d.toGraph
  id : (FieldName.single "id").optional none (nullable text) fields = .ok d.id
  name : (FieldName.single "name").optional "" text fields = .ok d.name
  alarm : (FieldName.mk "alarmConfig" "alarm_config").optional none (nullable (AlarmSettings.ofValue mode)) fields =
    .ok d.alarm
  naturalLanguage : (FieldName.mk "naturalLanguage" "natural_language").optional none (nullable text) fields =
    .ok d.naturalLanguage
  isValid : (FieldName.mk "isValid" "is_valid").optional false bool fields = .ok d.isValid
  createdAt : (FieldName.mk "createdAt" "created_at").optional none (nullable moment) fields = .ok d.createdAt
  updatedAt : (FieldName.mk "updatedAt" "updated_at").optional none (nullable moment) fields = .ok d.updatedAt
  userId : (FieldName.mk "userId" "user_id").optional none (nullable text) fields = .ok d.userId

theorem ofFields_eq_ok_iff {mode : ReadMode} {fields : List (Scalar × Value)} {d : Document} :
    Document.ofFields mode fields = .ok d ↔ d.ReadFrom mode fields := by
  constructor
  · intro h
    obtain ⟨_, _, h₁, huser, rfl⟩ := exists_of_app_ok h
    obtain ⟨_, _, h₂, hupdated, rfl⟩ := exists_of_app_ok h₁
    obtain ⟨_, _, h₃, hcreated, rfl⟩ := exists_of_app_ok h₂
    obtain ⟨_, _, h₄, hvalid, rfl⟩ := exists_of_app_ok h₃
    obtain ⟨_, _, h₅, hlanguage, rfl⟩ := exists_of_app_ok h₄
    obtain ⟨_, _, h₆, halarm, rfl⟩ := exists_of_app_ok h₅
    obtain ⟨_, _, h₇, hname, rfl⟩ := exists_of_app_ok h₆
    obtain ⟨_, _, h₈, hid, rfl⟩ := exists_of_app_ok h₇
    obtain ⟨_, _, h₉, hgraph, rfl⟩ := exists_of_app_ok h₈
    cases h₉
    exact ⟨hgraph, hid, hname, halarm, hlanguage, hvalid, hcreated, hupdated, huser⟩
  · rintro ⟨hgraph, hid, hname, halarm, hlanguage, hvalid, hcreated, hupdated, huser⟩
    rw [Document.ofFields, hgraph, hid, hname, halarm, hlanguage, hvalid, hcreated, hupdated, huser]
    rfl

theorem ofValue_object (mode : ReadMode) (fields : List (Scalar × Value)) :
    Document.ofValue mode (.object fields) = Document.ofFields mode fields := by
  rw [Document.ofValue, record]
  rfl

theorem exists_of_ofValue {mode : ReadMode} {v : Value} {d : Document} (h : Document.ofValue mode v = .ok d) :
    ∃ fields, v = .object fields ∧ d.ReadFrom mode fields := by
  obtain ⟨fields, hrecord, hfields⟩ := exists_of_bind_ok h
  exact ⟨fields, record_eq_ok_iff.1 hrecord, ofFields_eq_ok_iff.1 hfields⟩

end BlockRules.Document
