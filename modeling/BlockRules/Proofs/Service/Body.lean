import BlockRules.Proofs.Json.Reading
import BlockRules.Proofs.Metrics.Parts
import BlockRules.Proofs.Schema.Field
import BlockRules.Proofs.Text.Direct
import BlockRules.Service.Basic

set_option autoImplicit false

/-!
# What bodies hold

A body of printable characters of ASCII is in no other encoding than it seems to be. Whatever the encoding, it is read
as data of JSON, and so are the inputs in it; those that are measured are data of JSON as well.
-/
namespace BlockRules
open Checked Gathering Value Text

namespace Text

end Text

namespace Body

end Body

def Inputs.AreJson (inputs : Inputs) : Prop := ∀ x ∈ inputs, x.2.isJson = true

namespace Service

theorem exists_of_read {α : Type} {content : Value → Checked α} {body : List Char} {a : α}
    (h : read content body = .ok a) : ∃ v, v.isJson = true ∧ content v = .ok a := by
  have h := mapError_eq_ok_iff.1 h
  unfold Body.read at h
  split at h
  · cases h
  · split at h
    · cases h
    · cases h
    · cases h
    · cases h
    · cases h
    · cases h
    · rename_i v hread
      obtain ⟨text, -, hread⟩ := exists_of_map_ok hread
      exact ⟨v, (Json.isData_of_read hread).1, at_eq_ok_iff.1 (mapError_eq_ok_iff.1 h)⟩

theorem areJson_of_inputs {v : Value} {inputs : Inputs} (hv : v.isJson = true) (h : Checked.inputs v = .ok inputs) :
    inputs.AreJson := by
  unfold Checked.inputs at h
  split at h
  · cases h
    intro x hx
    obtain ⟨f, hf, hname⟩ := List.mem_filterMap.1 hx
    split at hname
    · cases hname
      exact hereditary_isJson.field hv hf
    · cases hname
  · cases h

theorem areJson_of_optional {fields : List (Scalar × Value)} (hfields : (Value.object fields).isJson = true)
    {inputs : Inputs} (h : (FieldName.single "inputs").optional [] Checked.inputs fields = .ok inputs) :
    inputs.AreJson := by
  obtain ⟨name, v, hv, hread⟩ | rfl := FieldName.exists_of_optional_ok h
  · exact areJson_of_inputs (hereditary_isJson.get? hfields hv) hread
  · exact fun _ hx => absurd hx List.not_mem_nil

theorem areJson_of_evaluateRequest {body : List Char} {r : EvaluateRequest}
    (h : read EvaluateRequest.ofValue body = .ok r) : r.inputs.AreJson := by
  obtain ⟨v, hv, hcontent⟩ := exists_of_read h
  obtain ⟨fields, hrecord, hfields⟩ := exists_of_bind_ok hcontent
  rw [record_eq_ok_iff.1 hrecord] at hv
  obtain ⟨_, _, h₁, -, rfl⟩ := exists_of_app_ok hfields
  obtain ⟨_, inputs, h₂, hinputs, rfl⟩ := exists_of_app_ok h₁
  obtain ⟨_, _, h₃, -, rfl⟩ := exists_of_app_ok h₂
  cases h₃
  exact areJson_of_optional hv hinputs

theorem areJson_of_storedRequest {body : List Char} {r : StoredRequest}
    (h : read StoredRequest.ofValue body = .ok r) : r.inputs.AreJson := by
  obtain ⟨v, hv, hcontent⟩ := exists_of_read h
  obtain ⟨fields, hrecord, hfields⟩ := exists_of_bind_ok hcontent
  rw [record_eq_ok_iff.1 hrecord] at hv
  obtain ⟨_, _, h₁, -, rfl⟩ := exists_of_app_ok hfields
  obtain ⟨_, inputs, h₂, hinputs, rfl⟩ := exists_of_app_ok h₁
  cases h₂
  exact areJson_of_optional hv hinputs

end Service

theorem Inputs.AreJson.append {xs ys : Inputs} (hxs : xs.AreJson) (hys : ys.AreJson) : (xs ++ ys).AreJson :=
  fun x hx => (List.mem_append.1 hx).elim (hxs x) (hys x)

theorem Snapshot.areJson_of_whenReported {α : Type} {x : Option α} {read : α → Except QuantityError Inputs}
    (hread : ∀ a inputs, read a = .ok inputs → inputs.AreJson) {inputs : Inputs}
    (h : whenReported x read = .ok inputs) : inputs.AreJson := by
  cases x with
  | some a => exact hread a inputs h
  | none =>
    cases h
    exact fun _ hx => absurd hx List.not_mem_nil

theorem Readings.areJson_of_snapshot {r : Readings} {now : Moment} {inputs : Inputs}
    (h : r.snapshot now = .ok inputs) : inputs.AreJson := by
  obtain ⟨memory, processor, battery, disk, hmemory, -, hbattery, hdisk, rfl⟩ := snapshot_eq_ok_iff.1 h
  refine .append (.append (.append (.append ?_ ?_) ?_) ?_) ?_
  · obtain ⟨used, -, hmemory⟩ := exists_of_bind_ok hmemory
    obtain ⟨total, -, hmemory⟩ := exists_of_bind_ok hmemory
    obtain ⟨percent, -, hmemory⟩ := exists_of_bind_ok hmemory
    cases hmemory
    simp [Inputs.AreJson, isJson, Scalar.isJson]
  · simp [Inputs.AreJson, isJson, Scalar.isJson]
  · refine Snapshot.areJson_of_whenReported (fun b inputs hb => ?_) hbattery
    obtain ⟨percent, -, hb⟩ := exists_of_bind_ok hb
    cases hb
    simp [Inputs.AreJson, isJson, Scalar.isJson]
  · refine Snapshot.areJson_of_whenReported (fun d inputs hd => ?_) hdisk
    obtain ⟨used, -, hd⟩ := exists_of_bind_ok hd
    obtain ⟨total, -, hd⟩ := exists_of_bind_ok hd
    obtain ⟨percent, -, hd⟩ := exists_of_bind_ok hd
    cases hd
    simp [Inputs.AreJson, isJson, Scalar.isJson]
  · simp [Snapshot.ofTime, Inputs.AreJson, isJson, Scalar.isJson]

end BlockRules
