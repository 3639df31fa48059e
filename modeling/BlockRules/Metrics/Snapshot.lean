import BlockRules.Calendar.Basic
import BlockRules.Comparison.Comparator
import BlockRules.Metrics.Quantity
import BlockRules.Number.Shortest

set_option autoImplicit false

/-!
# Snapshots

A snapshot gives what a device reports, and the time, under the names that conditions use. Memory is in whole
mebibytes and storage in gibibytes with two places. What the device does not report is left out, so that
conditions on it fail.
-/
namespace BlockRules

structure Usage where
  used : Quantity
  total : Quantity
  percent : Quantity

structure Battery where
  percent : Quantity
  charging : Bool

structure Readings where
  memory : Usage
  processor : Quantity
  battery : Option Battery
  disk : Option Usage

namespace Snapshot

def mebibyte : Nat := 1024 * 1024

def gibibyte : Nat := 1024 * 1024 * 1024

def mebibytes (q : Quantity) : Except QuantityError Int := do
  let x ← q.inUnits mebibyte
  x.nearestInt

def gibibytes (q : Quantity) : Except QuantityError String :=
  (q.inUnits gibibyte).map fun x => x.fixedText 2

def ofMemory (m : Usage) : Except QuantityError Inputs := do
  let used ← mebibytes m.used
  let total ← mebibytes m.total
  let percent ← m.percent.rounded
  return [("memoryUsedMB", .int used), ("memoryTotalMB", .int total), ("memoryPercent", .int percent)]

def ofBattery (b : Battery) : Except QuantityError Inputs := do
  let percent ← b.percent.rounded
  return [("batteryLevel", .int percent), ("batteryCharging", .text (if b.charging then "yes" else "no"))]

def ofDisk (d : Usage) : Except QuantityError Inputs := do
  let used ← gibibytes d.used
  let total ← gibibytes d.total
  let percent ← d.percent.rounded
  return [("storageUsedGB", .text used), ("storageTotalGB", .text total), ("storagePercent", .int percent)]

/-- The time, with the day of the week from 0 for Sunday. -/
def ofTime (now : Moment) : Inputs :=
  [("hour", .int now.time.hour), ("minute", .int now.time.minute), ("dayOfWeek", .int now.date.dayOfWeek),
    ("dayOfMonth", .int now.date.day)]

def whenReported {α : Type} (x : Option α) (inputs : α → Except QuantityError Inputs) :
    Except QuantityError Inputs :=
  match x with
  | some a => inputs a
  | none => .ok []

end Snapshot

open Snapshot in
/-- Whether a snapshot gets as far as measuring the use of the processor, which comes after memory. -/
def Readings.reachesProcessor (r : Readings) : Bool := (ofMemory r.memory).isOk

open Snapshot in
def Readings.snapshot (r : Readings) (now : Moment) : Except QuantityError Inputs := do
  let memory ← ofMemory r.memory
  let processor ← r.processor.rounded
  let battery ← whenReported r.battery ofBattery
  let disk ← whenReported r.disk ofDisk
  return memory ++ [("cpuPercent", .int processor)] ++ battery ++ disk ++ ofTime now

end BlockRules
