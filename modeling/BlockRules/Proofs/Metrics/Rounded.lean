import BlockRules.Proofs.Comparison.Decimals
import BlockRules.Proofs.Metrics.Parts

set_option autoImplicit false

/-!
# Amounts in snapshots

Fewer than `2 ^ 53` bytes are divided by a power of two without an error, so that an amount is rounded once: to whole
mebibytes, or to hundredths of gibibytes that are written in a text. Rounding keeps what is used within the total, and
conditions order the texts as the hundredths.
-/
namespace BlockRules

namespace Quantity
open Binary64 Magnitude Number

theorem steps_eq_mul {k : Nat} (hk : k ≤ stepExponent) : one = twoPow (stepExponent - k) * twoPow k := by
  rw [one, ← twoPow_add, Nat.sub_add_cancel hk]

theorem exists_inUnits_whole {n k : Nat} (hn : n < twoPow 53) (hk : k ≤ stepExponent) :
    ∃ m : Magnitude, m.steps = n * twoPow (stepExponent - k) ∧
      (whole n).inUnits (twoPow k) = .ok (.finite false m) := by
  have hbounded : n * twoPow (stepExponent - k) < limit := by
    rw [limit_eq]
    calc n * twoPow (stepExponent - k)
        < twoPow 53 * twoPow (stepExponent - k) := Nat.mul_lt_mul_of_pos_right hn (twoPow_pos _)
      _ = twoPow (53 + (stepExponent - k)) := (twoPow_add _ _).symm
      _ ≤ twoPow 2098 := twoPow_le (by rw [stepExponent]; omega)
  obtain ⟨m, hm⟩ : ∃ m : Magnitude, m.steps = n * twoPow (stepExponent - k) :=
    ⟨⟨_, spacing_dvd_mul (Nat.le_of_lt hn), hbounded⟩, rfl⟩
  have hexact : n * one = m.steps * twoPow k := by rw [hm, steps_eq_mul hk, Nat.mul_assoc]
  have hnearest : nearest (n * one) (twoPow k) = some m := by
    rw [hexact]
    exact nearest_steps_mul m (twoPow_pos k)
  refine ⟨m, hm, ?_⟩
  rw [inUnits, Int.natAbs_natCast, hnearest, decide_eq_false (Int.not_lt.2 (Int.natCast_nonneg n)), Option.elim_some]

theorem roundHalfEven_steps {n k c : Nat} (hk : k ≤ stepExponent) :
    roundHalfEven (n * twoPow (stepExponent - k) * c) one = roundHalfEven (n * c) (twoPow k) := by
  rw [steps_eq_mul hk, Nat.mul_right_comm, Nat.mul_comm (twoPow _) (twoPow k)]
  exact roundHalfEven_mul_mul (twoPow_pos k) (twoPow_pos _)

end Quantity

namespace Snapshot
open Binary64 Number Quantity

theorem mebibyte_eq : mebibyte = twoPow 20 := by decide

theorem gibibyte_eq : gibibyte = twoPow 30 := by decide

/-- Bytes in hundredths of gibibytes. -/
def hundredths (n : Nat) : Nat := roundHalfEven (n * tenPow 2) gibibyte

theorem mebibytes_whole {n : Nat} (hn : n < twoPow 53) :
    mebibytes (.whole n) = .ok (roundHalfEven n mebibyte : Nat) := by
  obtain ⟨m, hm, hunits⟩ := exists_inUnits_whole (k := 20) hn (by decide)
  have hround := roundHalfEven_steps (n := n) (k := 20) (c := 1) (by decide)
  rw [Nat.mul_one, Nat.mul_one, ← hm] at hround
  rw [mebibytes, mebibyte_eq, hunits, ← hround]
  rfl

theorem gibibytes_whole {n : Nat} (hn : n < twoPow 53) :
    gibibytes (.whole n) = .ok (String.ofList (placesText 2 (hundredths n))) := by
  obtain ⟨m, hm, hunits⟩ := exists_inUnits_whole (k := 30) hn (by decide)
  have hround := roundHalfEven_steps (n := n) (k := 30) (c := tenPow 2) (by decide)
  rw [← hm] at hround
  rw [gibibytes, hundredths, gibibyte_eq, hunits, ← hround, ← fixedText_succ]
  rfl

theorem hundredths_mono {n n' : Nat} (h : n ≤ n') : hundredths n ≤ hundredths n' :=
  roundHalfEven_mono (by decide) (Nat.mul_le_mul_right _ h)

theorem hundredths_le {n : Nat} (hn : n < twoPow 53) : hundredths n ≤ twoPow 23 * tenPow 2 := by
  have hle : n * tenPow 2 ≤ twoPow 23 * tenPow 2 * gibibyte := by
    rw [Nat.mul_right_comm, gibibyte_eq, ← twoPow_add]
    exact Nat.mul_le_mul_right _ (Nat.le_of_lt hn)
  calc hundredths n
      ≤ roundHalfEven (twoPow 23 * tenPow 2 * gibibyte) gibibyte := roundHalfEven_mono (by decide) hle
    _ = twoPow 23 * tenPow 2 := roundHalfEven_mul _ _ (by decide)

theorem isNearest_hundredths (n : Nat) : IsNearest (hundredths n) ((n : ℚ) / gibibyte * tenPow 2) := by
  have h := isNearest_roundHalfEven (n * tenPow 2) (q := gibibyte) (by decide)
  rwa [Nat.cast_mul, mul_div_right_comm] at h

theorem abs_hundredths_sub_le (n : Nat) : |decimal (hundredths n) 2 - (n : ℚ) / gibibyte| ≤ 5 / 1000 := by
  have hnear := abs_le.1 (isNearest_hundredths n).near
  have hpower : (tenPow 2 : ℚ) = 100 := by
    rw [show tenPow 2 = 100 from rfl]
    norm_num
  rw [hpower, Int.cast_natCast] at hnear
  rw [decimal, hpower, Int.cast_natCast, abs_le]
  constructor <;> linarith

end Snapshot

/-- Use that is reported in whole bytes, fewer than `2 ^ 53` in total. -/
structure Usage.IsWhole (m : Usage) (used total : Nat) : Prop where
  used_eq : m.used = .whole used
  total_eq : m.total = .whole total
  le : used ≤ total
  lt : total < Number.twoPow 53

namespace Snapshot
open Gathering Number

theorem ofMemory_whole {m : Usage} {used total : Nat} (h : m.IsWhole used total) :
    ofMemory m = m.percent.rounded.map fun percent =>
      [("memoryUsedMB", .int (roundHalfEven used mebibyte : Nat)),
        ("memoryTotalMB", .int (roundHalfEven total mebibyte : Nat)), ("memoryPercent", .int percent)] := by
  rw [ofMemory, h.used_eq, h.total_eq, mebibytes_whole (Nat.lt_of_le_of_lt h.le h.lt), mebibytes_whole h.lt]
  cases m.percent.rounded <;> rfl

theorem ofDisk_whole {d : Usage} {used total : Nat} (h : d.IsWhole used total) :
    ofDisk d = d.percent.rounded.map fun percent =>
      [("storageUsedGB", .text (String.ofList (placesText 2 (hundredths used)))),
        ("storageTotalGB", .text (String.ofList (placesText 2 (hundredths total)))),
        ("storagePercent", .int percent)] := by
  rw [ofDisk, h.used_eq, h.total_eq, gibibytes_whole (Nat.lt_of_le_of_lt h.le h.lt), gibibytes_whole h.lt]
  cases d.percent.rounded <;> rfl

end Snapshot

namespace Readings
open Gathering Snapshot

theorem exists_snapshot_iff {r : Readings} {now : Moment} {used total : Nat} (hmemory : r.memory.IsWhole used total)
    (hdisk : ∀ d ∈ r.disk, ∃ used total, d.IsWhole used total) :
    (∃ inputs, r.snapshot now = .ok inputs) ↔ ∀ q ∈ r.percents, q.isFinite = true := by
  have hdisks : (∀ d ∈ r.disk, ∃ inputs, ofDisk d = .ok inputs) ↔ ∀ d ∈ r.disk, d.percent.isFinite = true := by
    refine forall₂_congr fun d hd => ?_
    obtain ⟨used, total, hwhole⟩ := hdisk d hd
    rw [ofDisk_whole hwhole, exists_map_ok_iff, Quantity.exists_rounded_iff]
  rw [exists_snapshot_iff_parts, exists_whenReported_iff, exists_whenReported_iff, hdisks, ofMemory_whole hmemory]
  simp only [ofBattery_eq, exists_map_ok_iff, Quantity.exists_rounded_iff]
  simp [percents, or_imp, forall_and]

end Readings

namespace Inputs
open Number Snapshot

/-- An amount in the nearest whole number of mebibytes. -/
structure HoldsMebibytes (inputs : Inputs) (name : String) (bytes : Nat) (n : Int) : Prop where
  value : inputs.lookup name = some (.int n)
  nearest : IsNearest n ((bytes : ℚ) / mebibyte)

/-- An amount in hundredths of gibibytes: the text of the nearest number of them, which ordering conditions compare
with other decimals as that decimal. -/
structure HoldsHundredths (inputs : Inputs) (name : String) (bytes n : Nat) : Prop where
  value : inputs.lookup name = some (.text (String.ofList (placesText 2 n)))
  nearest : IsNearest n ((bytes : ℚ) / gibibyte * tenPow 2)
  near : |decimal n 2 - (bytes : ℚ) / gibibyte| ≤ 5 / 1000
  reads : (Value.text (String.ofList (placesText 2 n))).IsDecimal n 2
  ordered : ∀ (operator : String) (comparator : Comparator), Comparator.ofName? operator = some comparator →
    comparator.orders = true → ∀ (c : Condition) (m : Int) (places : Nat), c.input? = some name →
      c.value.IsDecimal m places → places ≤ fewPlaces →
        (c.comparedBy operator).holds inputs = .ok (comparator.ordersExactly (decimal n 2) (decimal m places))

theorem holdsHundredths_of_lookup {inputs : Inputs} {name : String} {bytes : Nat} (hbytes : bytes < twoPow 53)
    (h : inputs.lookup name = some (.text (String.ofList (placesText 2 (hundredths bytes))))) :
    inputs.HoldsHundredths name bytes (hundredths bytes) where
  value := h
  nearest := isNearest_hundredths bytes
  near := abs_hundredths_sub_le bytes
  reads := Value.isDecimal_placesText 1 _
  ordered := by
    intro operator comparator hname horders c m places hinput hvalue hplaces
    have hbetween : c.Between inputs (.text (String.ofList (placesText 2 (hundredths bytes)))) c.value :=
      ⟨by rw [Condition.actual?, hinput, Option.bind_some, h], rfl⟩
    rw [hbetween.holds hname]
    exact Comparator.holds_of_isDecimal horders (Value.isDecimal_placesText 1 _) hvalue (by decide) hplaces
      (hundredths_le hbytes)

end Inputs

namespace Readings
open Number Snapshot

/-- The amounts of memory and storage in a snapshot are those reported, each rounded once to the nearest, and what is
used does not exceed the total. Ordering conditions on the texts for storage answer as their decimals do, and there is
a snapshot unless a percentage is not finite. -/
theorem snapshot_rounded {r : Readings} {d : Usage} {used total diskUsed diskTotal : Nat}
    (hmemory : r.memory.IsWhole used total) (hreported : r.disk = some d) (hdisk : d.IsWhole diskUsed diskTotal)
    (now : Moment) :
    ((∃ inputs, r.snapshot now = .ok inputs) ↔ ∀ q ∈ r.percents, q.isFinite = true) ∧
    ∀ inputs, r.snapshot now = .ok inputs →
      (∃ u t, inputs.HoldsMebibytes "memoryUsedMB" used u ∧ inputs.HoldsMebibytes "memoryTotalMB" total t ∧ u ≤ t) ∧
      ∃ u t : Nat, inputs.HoldsHundredths "storageUsedGB" diskUsed u ∧
        inputs.HoldsHundredths "storageTotalGB" diskTotal t ∧ decimal u 2 ≤ decimal t 2 := by
  refine ⟨exists_snapshot_iff hmemory fun d' hd' => ?_, fun inputs h => ?_⟩
  · obtain rfl := Option.some.inj (hreported.symm.trans hd')
    exact ⟨_, _, hdisk⟩
  obtain ⟨memory, processor, battery, disk, hmemoryInputs, -, hbattery, hdiskInputs, rfl⟩ := snapshot_eq_ok_iff.1 h
  rw [ofMemory_whole hmemory] at hmemoryInputs
  rw [hreported, whenReported, ofDisk_whole hdisk] at hdiskInputs
  obtain ⟨percent, -, rfl⟩ := Gathering.exists_of_map_ok hmemoryInputs
  obtain ⟨diskPercent, -, rfl⟩ := Gathering.exists_of_map_ok hdiskInputs
  have hstorage : ∀ {name : String}, name ≠ "batteryLevel" → name ≠ "batteryCharging" → battery.lookup name = none :=
    lookup_ofBattery hbattery
  refine ⟨⟨_, _, ⟨rfl, isNearest_roundHalfEven used (by decide)⟩, ⟨rfl, isNearest_roundHalfEven total (by decide)⟩,
    ?_⟩, _, _, Inputs.holdsHundredths_of_lookup (Nat.lt_of_le_of_lt hdisk.le hdisk.lt) ?_,
    Inputs.holdsHundredths_of_lookup hdisk.lt ?_, ?_⟩
  · exact Int.ofNat_le.2 (roundHalfEven_mono (by decide) hmemory.le)
  · rw [List.lookup_append, List.lookup_append, List.lookup_append, hstorage (by decide) (by decide)]
    rfl
  · rw [List.lookup_append, List.lookup_append, List.lookup_append, hstorage (by decide) (by decide)]
    rfl
  · have hle : ((hundredths diskUsed : Int) : ℚ) ≤ (hundredths diskTotal : Int) :=
      Int.cast_le.2 (Int.ofNat_le.2 (hundredths_mono hdisk.le))
    exact div_le_div_of_nonneg_right hle (Nat.cast_nonneg _)

/-- Amounts halfway between two mebibytes or two hundredths of gibibytes. -/
def halfway : Readings where
  memory := ⟨.whole 1572864, .whole 2621440, .real (.ofDecimal false 595 (-1))⟩
  processor := .whole 7
  battery := none
  disk := some ⟨.whole 134217728, .whole 402653184, .whole 33⟩

def sunday : Moment := ⟨⟨2023, 10, 1, by decide, by decide⟩, .midnight, none⟩

def storageUsedIs (value : Value) : Condition := ⟨some "storageUsedGB", none, none, value, none⟩

/-- Halves go to the even neighbour, up or down, and the text is ordered by what it says and not by the bytes. -/
theorem snapshot_halfway :
    halfway.memory.IsWhole 1572864 2621440 ∧ (∃ d, halfway.disk = some d ∧ d.IsWhole 134217728 402653184) ∧
    ∃ inputs, halfway.snapshot sunday = .ok inputs ∧
      inputs.lookup "memoryUsedMB" = some (.int 2) ∧ inputs.lookup "memoryTotalMB" = some (.int 2) ∧
      inputs.lookup "storageUsedGB" = some (.text "0.12") ∧ inputs.lookup "storageTotalGB" = some (.text "0.38") ∧
      ((storageUsedIs (.text "0.125")).comparedBy "<").holds inputs = .ok true ∧
      ((storageUsedIs (.text "0.38")).comparedBy "<=").holds inputs = .ok true ∧
      ((storageUsedIs (.int 1)).comparedBy "greaterThan").holds inputs = .ok false := by
  have hmemory : halfway.memory.IsWhole 1572864 2621440 := ⟨rfl, rfl, by decide, by decide⟩
  have hdisk : Usage.IsWhole ⟨.whole 134217728, .whole 402653184, .whole 33⟩ 134217728 402653184 :=
    ⟨rfl, rfl, by decide, by decide⟩
  obtain ⟨hexists, hamounts⟩ := snapshot_rounded hmemory rfl hdisk sunday
  obtain ⟨inputs, hinputs⟩ := hexists.2 (by decide +kernel)
  obtain ⟨⟨used, total, hused, htotal, -⟩, diskUsed, diskTotal, hdiskUsed, hdiskTotal, -⟩ := hamounts inputs hinputs
  obtain rfl : used = 2 := hused.nearest.unique ⟨by norm_num [mebibyte], by norm_num [mebibyte]⟩
  obtain rfl : total = 2 := htotal.nearest.unique ⟨by norm_num [mebibyte], by norm_num [mebibyte]⟩
  have htwelve : (diskUsed : Int) = 12 := by
    refine hdiskUsed.nearest.unique ⟨?_, ?_⟩ <;> norm_num [gibibyte, tenPow]
  have hthirtyEight : (diskTotal : Int) = 38 := by
    refine hdiskTotal.nearest.unique ⟨?_, ?_⟩ <;> norm_num [gibibyte, tenPow]
  obtain rfl := Int.ofNat_inj.1 htwelve
  obtain rfl := Int.ofNat_inj.1 hthirtyEight
  refine ⟨hmemory, ⟨_, rfl, hdisk⟩, inputs, hinputs, hused.value, htotal.value, hdiskUsed.value, hdiskTotal.value,
    ?_, ?_, ?_⟩
  · rw [hdiskUsed.ordered "<" .less rfl rfl (storageUsedIs (.text "0.125")) 125 3 rfl
      (Value.isDecimal_placesText 2 125) (by decide)]
    exact congrArg _ (decide_eq_true (by norm_num [decimal, tenPow]))
  · rw [hdiskUsed.ordered "<=" .atMost rfl rfl (storageUsedIs (.text "0.38")) 38 2 rfl hdiskTotal.reads (by decide)]
    exact congrArg _ (decide_eq_true (by norm_num [decimal, tenPow]))
  · rw [hdiskUsed.ordered "greaterThan" .greater rfl rfl (storageUsedIs (.int 1)) 1 0 rfl
      (Value.isDecimal_int (by decide +kernel)) (by decide)]
    exact congrArg _ (decide_eq_false (by norm_num [decimal, tenPow]))

end Readings

end BlockRules
