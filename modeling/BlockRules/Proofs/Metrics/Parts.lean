import BlockRules.Metrics.Snapshot
import BlockRules.Proofs.Gathering

set_option autoImplicit false

namespace BlockRules

namespace Quantity

def isFinite : Quantity → Bool
  | whole _ => true
  | real x => x.isFinite

theorem exists_rounded_iff {q : Quantity} : (∃ n, q.rounded = .ok n) ↔ q.isFinite = true := by
  cases q with
  | whole n => exact iff_of_true ⟨n, rfl⟩ rfl
  | real x =>
    cases x with
    | finite negative magnitude => exact iff_of_true ⟨_, rfl⟩ rfl
    | infinite negative => exact iff_of_false nofun nofun
    | nan => exact iff_of_false nofun nofun

end Quantity

namespace Snapshot
open Gathering

theorem ofBattery_eq (b : Battery) :
    ofBattery b = b.percent.rounded.map fun percent =>
      [("batteryLevel", .int percent), ("batteryCharging", .text (if b.charging then "yes" else "no"))] := by
  rw [ofBattery]
  cases b.percent.rounded <;> rfl

theorem exists_whenReported_iff {α : Type} {x : Option α} {f : α → Except QuantityError Inputs} :
    (∃ inputs, whenReported x f = .ok inputs) ↔ ∀ a ∈ x, ∃ inputs, f a = .ok inputs := by
  cases x with
  | none => exact iff_of_true ⟨[], rfl⟩ nofun
  | some a => simp [whenReported]

theorem lookup_ofBattery {b : Option Battery} {inputs : Inputs} (h : whenReported b ofBattery = .ok inputs)
    {name : String} (hlevel : name ≠ "batteryLevel") (hcharging : name ≠ "batteryCharging") :
    inputs.lookup name = none := by
  cases b with
  | none =>
    cases h
    rfl
  | some b =>
    rw [whenReported, ofBattery_eq] at h
    obtain ⟨percent, -, rfl⟩ := exists_of_map_ok h
    simp [List.lookup_cons, beq_false_of_ne hlevel, beq_false_of_ne hcharging]

end Snapshot

namespace Readings
open Gathering Snapshot

def percents (r : Readings) : List Quantity :=
  r.memory.percent :: r.processor :: (r.battery.toList.map (·.percent) ++ r.disk.toList.map (·.percent))

variable {r : Readings} {now : Moment} {inputs : Inputs}

/-- A snapshot is of four parts and the time. -/
theorem snapshot_eq_ok_iff :
    r.snapshot now = .ok inputs ↔ ∃ memory processor battery disk, ofMemory r.memory = .ok memory ∧
      r.processor.rounded = .ok processor ∧ whenReported r.battery ofBattery = .ok battery ∧
      whenReported r.disk ofDisk = .ok disk ∧
      memory ++ [("cpuPercent", .int processor)] ++ battery ++ disk ++ ofTime now = inputs := by
  constructor
  · intro h
    obtain ⟨memory, hmemory, h⟩ := exists_of_bind_ok h
    obtain ⟨processor, hprocessor, h⟩ := exists_of_bind_ok h
    obtain ⟨battery, hbattery, h⟩ := exists_of_bind_ok h
    obtain ⟨disk, hdisk, h⟩ := exists_of_bind_ok h
    exact ⟨memory, processor, battery, disk, hmemory, hprocessor, hbattery, hdisk, Except.ok.inj h⟩
  · rintro ⟨memory, processor, battery, disk, hmemory, hprocessor, hbattery, hdisk, rfl⟩
    rw [snapshot, hmemory, hprocessor, hbattery, hdisk]
    rfl

theorem exists_snapshot_iff_parts :
    (∃ inputs, r.snapshot now = .ok inputs) ↔ (∃ memory, ofMemory r.memory = .ok memory) ∧
      (∃ processor, r.processor.rounded = .ok processor) ∧
      (∃ battery, whenReported r.battery ofBattery = .ok battery) ∧
      ∃ disk, whenReported r.disk ofDisk = .ok disk := by
  constructor
  · rintro ⟨inputs, h⟩
    obtain ⟨_, _, _, _, hmemory, hprocessor, hbattery, hdisk, -⟩ := snapshot_eq_ok_iff.1 h
    exact ⟨⟨_, hmemory⟩, ⟨_, hprocessor⟩, ⟨_, hbattery⟩, _, hdisk⟩
  · rintro ⟨⟨_, hmemory⟩, ⟨_, hprocessor⟩, ⟨_, hbattery⟩, _, hdisk⟩
    exact ⟨_, snapshot_eq_ok_iff.2 ⟨_, _, _, _, hmemory, hprocessor, hbattery, hdisk, rfl⟩⟩

end Readings

end BlockRules
