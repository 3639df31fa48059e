import BlockRules.Calendar.Written
import BlockRules.Proofs.Number.Digits
import BlockRules.Schema.Field

set_option autoImplicit false

namespace BlockRules
open Number Text

theorem daysInMonth_le (year month : Nat) : daysInMonth year month ≤ 31 := by
  unfold daysInMonth
  split <;> (try split) <;> omega

namespace Moment

theorem takeDate_written (d : Date) (rest : List Char) :
    takeDate (d.written ++ rest) = some ((d.year, d.month, d.day), rest) := by
  have hyear : d.year < tenPow 4 := Nat.lt_succ_of_le d.year_range.2
  have hmonth : d.month < tenPow 2 := Nat.lt_of_le_of_lt d.month_range.2 (by decide)
  have hday : d.day < tenPow 2 :=
    Nat.lt_of_le_of_lt (Nat.le_trans d.day_range.2 (daysInMonth_le d.year d.month)) (by decide)
  simp only [Date.written, List.append_assoc, List.cons_append]
  simp [takeDate, takeChar, takeDigits_padded, hyear, hmonth, hday, d.day_range]

/-- Digits of a time end where something else begins. -/
def EndsTime (rest : List Char) : Prop := ∀ c ∈ rest.head?, c.isDigit = false ∧ c ≠ '.' ∧ c ≠ ','

theorem takeWhile_digits {digits rest : List Char} (h : ∀ c ∈ digits, c.isDigit = true)
    (hrest : EndsTime rest) :
    (digits ++ rest).takeWhile (fun c => (asciiDigit? c).isSome) = digits := by
  rw [List.takeWhile_append_of_pos fun c hc => by rw [asciiDigit?_of_isDigit (h c hc)]; rfl]
  cases rest with
  | nil => exact List.append_nil digits
  | cons c rest =>
    obtain ⟨hc, -, -⟩ := hrest c rfl
    rw [List.takeWhile_cons, asciiDigit?_of_not_isDigit hc]
    exact List.append_nil digits

theorem foldl_asciiDigit {digits : List Char} (h : ∀ c ∈ digits, c.isDigit = true) (start : Nat) :
    digits.foldl (fun n c => 10 * n + (asciiDigit? c).getD 0) start = Nat.ofDigitChars 10 digits start := by
  induction digits generalizing start with
  | nil => rfl
  | cons c digits ih =>
    obtain ⟨hc, hdigits⟩ := List.forall_mem_cons.1 h
    rw [List.foldl_cons, ih hdigits, Nat.ofDigitChars_cons, asciiDigit?_of_isDigit hc, Option.getD_some]

theorem microsecondsOf_padded {n : Nat} (hn : n < tenPow 6) : microsecondsOf (padded 6 n) = n := by
  have hlength : (padded 6 n).length = 6 := length_padded (by decide) hn
  have htake : (padded 6 n).take 6 = padded 6 n := List.take_of_length_le (Nat.le_of_eq hlength)
  have hdigits : ∀ c ∈ padded 6 n, c.isDigit = true := fun _ hc => isDigit_of_mem_padded hc
  have hvalue := foldl_asciiDigit hdigits 0
  simp only [microsecondsOf, htake, hvalue, ofDigitChars_padded, hlength]
  exact Nat.mul_one n

theorem takeSeconds_written {t : TimeOfDay} {rest : List Char} (hrest : EndsTime rest) :
    takeSeconds (padded 2 t.second ++ ((if t.microsecond = 0 then [] else '.' :: padded 6 t.microsecond) ++ rest)) =
      some ((t.second, t.microsecond), rest) := by
  have hrange := t.in_range
  have hsecond : t.second < tenPow 2 := Nat.lt_of_lt_of_le hrange.2.2.1 (by decide)
  have hmicro : t.microsecond < tenPow 6 := hrange.2.2.2
  rw [takeSeconds, takeDigits_padded (by decide) hsecond]
  by_cases hzero : t.microsecond = 0
  · rw [if_pos hzero, List.nil_append, hzero]
    cases rest with
    | nil => rfl
    | cons c rest =>
      obtain ⟨-, hpoint, hcomma⟩ := hrest c rfl
      simp [hpoint, hcomma]
  · have hlength : (padded 6 t.microsecond).length = 6 := length_padded (by decide) hmicro
    have hsome : (padded 6 t.microsecond).isEmpty = false := by
      rw [List.isEmpty_eq_false_iff]
      exact List.ne_nil_of_length_eq_add_one hlength
    have hdigits : ∀ c ∈ padded 6 t.microsecond, c.isDigit = true := fun _ hc => isDigit_of_mem_padded hc
    have htaken := takeWhile_digits hdigits hrest
    have hdropped : (padded 6 t.microsecond ++ rest).drop (padded 6 t.microsecond).length = rest := List.drop_left
    rw [if_neg hzero, List.cons_append]
    simp only [Option.bind_eq_bind, Option.bind_some, htaken, hsome, hdropped, microsecondsOf_padded hmicro,
      Bool.false_eq_true, if_false, Option.pure_def]

theorem of?_self (t : TimeOfDay) : TimeOfDay.of? t.hour t.minute t.second t.microsecond = some t := by
  simp [TimeOfDay.of?, t.in_range]

theorem takeTime_written (t : TimeOfDay) {rest : List Char} (hrest : EndsTime rest) :
    takeTime (t.written ++ rest) = some (t, rest) := by
  have hrange := t.in_range
  have hhour : t.hour < tenPow 2 := Nat.lt_of_lt_of_le hrange.1 (by decide)
  have hminute : t.minute < tenPow 2 := Nat.lt_of_lt_of_le hrange.2.1 (by decide)
  have hseconds := takeSeconds_written (t := t) hrest
  simp only [TimeOfDay.written, List.append_assoc, List.cons_append]
  simp [takeTime, takeChar, takeDigits_padded, hhour, hminute, hseconds, of?_self]

theorem readOffset_signed {sign : Char} {factor : Int} (hsign : sign = '-' ∧ factor = -1 ∨ sign = '+' ∧ factor = 1)
    {hours minutes : Nat} (hhours : hours < 24) (hminutes : minutes < 60) :
    readOffset (sign :: (padded 2 hours ++ ':' :: padded 2 minutes)) =
      some (some (factor * ((hours * 60 + minutes : Nat) : Int))) := by
  have hwide : hours < tenPow 2 := Nat.lt_of_lt_of_le hhours (by decide)
  have hlast := takeDigits_padded (by decide) (Nat.lt_of_lt_of_le hminutes (by decide : 60 ≤ tenPow 2)) []
  rw [List.append_nil] at hlast
  obtain ⟨rfl, rfl⟩ | ⟨rfl, rfl⟩ := hsign
  · simp [readOffset, takeDigits_padded, hwide, hlast, hhours, hminutes]
  · simp [readOffset, takeDigits_padded, hwide, hlast, hhours, hminutes]

theorem readOffset_written {minutes : Int} (h : minutes.natAbs < 1440) :
    readOffset (writtenOffset minutes) = some (some minutes) := by
  have hhours : minutes.natAbs / 60 < 24 := by omega
  have hminutes : minutes.natAbs % 60 < 60 := Nat.mod_lt _ (by decide)
  have hsum : minutes.natAbs / 60 * 60 + minutes.natAbs % 60 = minutes.natAbs := Nat.div_add_mod' _ _
  rw [writtenOffset]
  by_cases hsign : minutes < 0
  · rw [if_pos hsign, readOffset_signed (.inl ⟨rfl, rfl⟩) hhours hminutes, hsum, Int.ofNat_natAbs_of_nonpos (by omega),
      Int.neg_one_mul, Int.neg_neg]
  · rw [if_neg hsign, readOffset_signed (.inr ⟨rfl, rfl⟩) hhours hminutes, hsum, Int.natAbs_of_nonneg (by omega),
      Int.one_mul]

/-- The offset of a moment, if it is known, is less than a day. -/
def OffsetInDay (m : Moment) : Prop := ∀ minutes ∈ m.offset, minutes.natAbs < 1440

theorem endsTime_writtenOffset (minutes : Int) : EndsTime (writtenOffset minutes) := by
  intro c hc
  rw [writtenOffset, List.head?_cons, Option.mem_some_iff] at hc
  subst hc
  split <;> decide

/-- The text of a moment means the moment itself. -/
theorem ofText_documentText {m : Moment} (h : m.OffsetInDay) : ofText m.documentText.toList = .ok m := by
  obtain ⟨date, time, offset⟩ := m
  have hdate := takeDate_written date
  -- What stands after the time, and how it is read.
  suffices hend : ∃ rest, EndsTime rest ∧ readOffset rest = some offset ∧
      (documentText ⟨date, time, offset⟩).toList = date.written ++ ('T' :: (time.written ++ rest)) by
    obtain ⟨rest, hrest, hoffset, htext⟩ := hend
    have hparts : readParts (date.written ++ ('T' :: (time.written ++ rest))) =
        some ((date.year, date.month, date.day), time, offset) := by
      simp [readParts, hdate, takeTime_written time hrest, hoffset]
    rw [htext, ofText, hparts]
    simp only [Date.of?_self]
  cases offset with
  | none =>
    have hend : EndsTime [] := fun c hc => by cases hc
    exact ⟨[], hend, rfl, by simp [documentText]⟩
  | some minutes =>
    have hread := readOffset_written (h minutes rfl)
    by_cases hzero : minutes = 0
    · subst hzero
      exact ⟨['Z'], by simp [EndsTime], rfl, by simp [documentText]⟩
    · refine ⟨writtenOffset minutes, endsTime_writtenOffset minutes, hread, ?_⟩
      have hclock : (documentText ⟨date, time, some minutes⟩) =
          String.ofList (date.written ++ 'T' :: time.written ++ writtenOffset minutes) := by
        rw [documentText]
        split
        · contradiction
        · rename_i heq
          exact absurd (Option.some.inj heq) hzero
        · rename_i heq
          cases heq
          rfl
      rw [hclock]
      simp

theorem natAbs_offset_lt {factor : Int} {hours minutes : Nat} (hfactor : factor.natAbs ≤ 1)
    (hminutes : minutes < 60) (hhours : hours < 24) :
    (factor * ((hours * 60 + minutes : Nat) : Int)).natAbs < 1440 := by
  rw [Int.natAbs_mul, Int.natAbs_natCast]
  calc factor.natAbs * (hours * 60 + minutes)
      ≤ 1 * (hours * 60 + minutes) := Nat.mul_le_mul_right _ hfactor
    _ < 1440 := by omega

theorem readOffset_inDay {s : List Char} {offset : Option Int} (h : readOffset s = some offset) :
    ∀ minutes ∈ offset, minutes.natAbs < 1440 := by
  intro minutes hminutes
  rw [Option.mem_def.1 hminutes] at h
  unfold readOffset at h
  split at h
  · cases h
  · cases h
    decide
  · cases h
    decide
  · split at h
    all_goals simp only [Option.bind_eq_bind, Option.bind_some, Option.bind_none, Option.bind_eq_some_iff] at h
    all_goals try contradiction
    all_goals
      obtain ⟨⟨hours, rest⟩, -, ⟨mins, rest'⟩, -, h⟩ := h
      split at h
      · rename_i hrange
        cases h
        exact natAbs_offset_lt (by decide) hrange.2.1 hrange.2.2
      · cases h

theorem readParts_inDay {s : List Char} {parts : (Nat × Nat × Nat) × TimeOfDay × Option Int}
    (h : readParts s = some parts) : ∀ minutes ∈ parts.2.2, minutes.natAbs < 1440 := by
  unfold readParts at h
  simp only [Option.bind_eq_bind, Option.bind_eq_some_iff] at h
  obtain ⟨⟨date, rest⟩, -, h⟩ := h
  cases rest with
  | nil =>
    cases h
    intro minutes hminutes
    cases hminutes
  | cons separator rest =>
    simp only at h
    split at h
    · simp only [Option.bind_eq_some_iff] at h
      obtain ⟨⟨time, rest'⟩, -, offset, hoffset, h⟩ := h
      cases h
      exact readOffset_inDay hoffset
    · cases h

theorem ofMicroseconds_inDay {total : Int} {m : Moment} (h : ofMicroseconds total = .ok m) : m.OffsetInDay := by
  rw [ofMicroseconds] at h
  split at h
  · cases h
  · split at h
    · rename_i hm
      cases h
      obtain ⟨date, -, rfl⟩ := Option.map_eq_some_iff.1 hm
      rintro minutes ⟨⟩
      decide
    · cases h

theorem ofFraction_inDay {x : Binary64} {m : Moment} (h : ofFraction x = .ok m) : m.OffsetInDay := by
  cases x with
  | finite negative magnitude => exact ofMicroseconds_inDay h
  | infinite negative => cases h
  | nan => cases h

theorem timestamp?_inDay {s : List Char} {m : Moment} (h : timestamp? s = some (.ok m)) : m.OffsetInDay := by
  unfold timestamp? at h
  by_cases hascii : (s.all fun c => decide (c.toNat < 0x80)) = true
  · simp only [hascii, Bool.not_true, Bool.false_eq_true, ↓reduceIte, Option.bind_eq_bind,
      Option.bind_eq_some_iff] at h
    obtain ⟨literal, -, h⟩ := h
    split at h
    · cases h
    · split at h
      · exact ofFraction_inDay (Option.some.inj h)
      · split at h
        · cases h
        · exact ofMicroseconds_inDay (Option.some.inj h)
  · simp [hascii] at h

theorem ofText_inDay {s : List Char} {m : Moment} (h : ofText s = .ok m) : m.OffsetInDay := by
  rw [ofText] at h
  split at h
  · rename_i year month day time offset hparts
    split at h
    · cases h
      exact readParts_inDay hparts
    · cases h
  · split at h
    · rename_i m' hm
      cases h
      exact timestamp?_inDay hm
    · cases h
    · cases h
    · cases h

theorem ofNumber_inDay {r : Except TimestampError Moment} {m : Moment} (h : ofNumber r = .ok m)
    (hr : r = .ok m → m.OffsetInDay) : m.OffsetInDay := by
  cases r with
  | error e => cases h
  | ok m' =>
    cases h
    exact hr rfl

end Moment

namespace Checked
open Moment

theorem momentResult_inDay {r : Except ReadError Moment} {m : Moment} (h : momentResult r = .ok m)
    (hr : r = .ok m → m.OffsetInDay) : m.OffsetInDay := by
  cases r with
  | error e => cases e <;> cases h
  | ok m' =>
    cases h
    exact hr rfl

theorem moment_inDay {v : Value} {m : Moment} (hv : ∀ m', v ≠ .scalar (.moment m')) (h : moment v = .ok m) :
    m.OffsetInDay := by
  unfold moment at h
  split at h
  · exact absurd rfl (hv _)
  · cases h
    exact nofun
  · exact momentResult_inDay h ofText_inDay
  · split at h
    · exact momentResult_inDay h ofText_inDay
    · cases h
  · split at h
    · exact momentResult_inDay h fun hm => ofNumber_inDay hm ofMicroseconds_inDay
    · cases h
  · exact momentResult_inDay h fun hm => ofNumber_inDay hm ofFraction_inDay
  · cases h

end Checked

end BlockRules
