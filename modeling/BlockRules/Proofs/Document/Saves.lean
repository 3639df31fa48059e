import BlockRules.Document.Saving
import Mathlib.Data.List.TakeWhile

set_option autoImplicit false

/-!
# Documents saved again and again

Each save starts from what the save before it made. What is worked out follows from the graph, which no save changes.
The time of creation comes from the first save at most, the time of the last change from the last save, and the owner
from the last save that names one.
-/
namespace BlockRules

theorem Text.trimBy_eq_nil_iff {test : Char → Bool} {s : List Char} :
    trimBy test s = [] ↔ ∀ c ∈ s, test c = true := by
  rw [trimBy, List.reverse_eq_nil_iff, List.dropWhile_eq_nil_iff]
  simp only [List.mem_reverse]
  constructor
  · intro h c hc
    rw [← s.takeWhile_append_dropWhile (p := test)] at hc
    exact (List.mem_append.1 hc).elim List.mem_takeWhile_imp (h c)
  · exact fun h c hc => h c ((s.dropWhile_sublist test).mem hc)

structure Save where
  user : Option String
  time : Moment

namespace Document

variable {d : Document}

theorem isNamed_iff : d.isNamed = true ↔ ∃ c ∈ d.name.toList, Text.isBlank c = false := by
  have h : (Text.strip d.name.toList).isEmpty = true ↔ ∀ c ∈ d.name.toList, Text.isBlank c = true :=
    List.isEmpty_iff.trans Text.trimBy_eq_nil_iff
  rw [isNamed, Bool.not_eq_true', ← Bool.not_eq_true, h]
  simp

theorem summaryIsLong_eq_false_iff : d.summaryIsLong = false ↔
    ∀ c ∈ d.conditions, given? c.2.field = none ∨ c.2.value.hasLongInteger = false := by
  simp only [Graph.summaryIsLong, Condition.summaryIsLong, List.any_eq_false, Bool.not_eq_true, Bool.and_eq_false_iff,
    Option.isSome_eq_false_iff, Option.isNone_iff_eq_none]

theorem prepare_unnamed (h : d.isNamed = false) (user : Option String) (now : Moment) :
    d.prepare user now = .error .nameMissing := by
  rw [prepare, h]
  rfl

theorem prepare_long (hnamed : d.isNamed = true) (hlong : d.summaryIsLong = true) (user : Option String)
    (now : Moment) : d.prepare user now = .error .integerTooLong := by
  rw [prepare, hnamed, hlong]
  rfl

/-- The last user that is given among those of some saves. -/
def lastUser? (saves : List Save) : Option String := (saves.filterMap fun s => given? s.user).getLast?

theorem lastUser?_cons (s : Save) (saves : List Save) :
    lastUser? (s :: saves) = (lastUser? saves).or (given? s.user) := by
  rw [lastUser?, lastUser?, List.filterMap_cons]
  cases given? s.user with
  | none => rw [Option.or_none]
  | some user =>
    rw [List.getLast?_cons]
    cases (saves.filterMap fun s => given? s.user).getLast? <;> rfl

/-- A document as some saves leave it, of which the first is told apart. -/
def savedBy (d : Document) (first : Save) (later : List Save) : Document :=
  { d with
    naturalLanguage := some d.summary
    isValid := d.validate.isValid
    createdAt := d.createdAt.or (some first.time)
    updatedAt := some (later.getLastD first).time
    userId := (lastUser? (first :: later)).or d.userId }

theorem prepare_eq_savedBy (hnamed : d.isNamed = true) (hshort : d.summaryIsLong = false) (s : Save) :
    d.prepare s.user s.time = .ok (d.savedBy s []) := by
  rw [prepare, hnamed, hshort, savedBy, lastUser?_cons]
  rfl

theorem savedBy_savedBy (d : Document) (s first : Save) (later : List Save) :
    (d.savedBy s []).savedBy first later = d.savedBy s (first :: later) := by
  have hcreated : (d.createdAt.or (some s.time)).or (some first.time) = d.createdAt.or (some s.time) := by
    rw [Option.or_assoc, Option.some_or]
  have hupdated : ((first :: later).getLastD s).time = (later.getLastD first).time := by rw [List.getLastD_cons]
  have howner : (lastUser? (first :: later)).or ((lastUser? [s]).or d.userId) =
      (lastUser? (s :: first :: later)).or d.userId := by
    rw [lastUser?_cons s, lastUser?_cons s, ← Option.or_assoc]
    rfl
  unfold savedBy
  rw [hcreated, hupdated, howner]

/-- A document after some saves, each of what the save before it made, up to the first error. -/
def saveAll (d : Document) (saves : List Save) : Except SaveError Document :=
  saves.foldlM (fun d s => d.prepare s.user s.time) d

theorem saveAll_cons (d : Document) (s : Save) (saves : List Save) :
    d.saveAll (s :: saves) = (d.prepare s.user s.time).bind fun saved => saved.saveAll saves :=
  List.foldlM_cons

theorem saveAll_eq (hnamed : d.isNamed = true) (hshort : d.summaryIsLong = false) (first : Save) (later : List Save) :
    d.saveAll (first :: later) = .ok (d.savedBy first later) := by
  induction later generalizing d first with
  | nil =>
    rw [saveAll_cons, prepare_eq_savedBy hnamed hshort]
    rfl
  | cons s later ih =>
    have hlater : (d.savedBy first []).saveAll (s :: later) = .ok ((d.savedBy first []).savedBy s later) :=
      ih (d := d.savedBy first []) hnamed hshort s
    rw [saveAll_cons, prepare_eq_savedBy hnamed hshort, ← savedBy_savedBy, ← hlater]
    rfl

theorem saveAll_of_error {e : SaveError} (h : ∀ user now, d.prepare user now = .error e) (first : Save)
    (later : List Save) : d.saveAll (first :: later) = .error e := by
  rw [saveAll_cons, h]
  rfl

theorem saveAll_twice (d : Document) (s : Save) : d.saveAll [s, s] = d.saveAll [s] := by
  cases hnamed : d.isNamed with
  | false => rw [saveAll_of_error (prepare_unnamed hnamed), saveAll_of_error (prepare_unnamed hnamed)]
  | true =>
    cases hlong : d.summaryIsLong with
    | true => rw [saveAll_of_error (prepare_long hnamed hlong), saveAll_of_error (prepare_long hnamed hlong)]
    | false =>
      have howner : lastUser? [s, s] = lastUser? [s] := by
        rw [lastUser?_cons, lastUser?_cons]
        cases given? s.user <;> rfl
      rw [saveAll_eq hnamed hlong, saveAll_eq hnamed hlong, savedBy, savedBy, howner]
      rfl

/-- A document with a name can be saved any number of times, and every save after the first changes what is noted of
the time and the owner only. Without a name it is never saved, nor with an integer in its summary that is too long to
be written. -/
theorem saveAll_outcome (d : Document) :
    ((∃ c ∈ d.name.toList, Text.isBlank c = false) →
      (∀ c ∈ d.conditions, given? c.2.field = none ∨ c.2.value.hasLongInteger = false) →
      ∀ (first : Save) (later : List Save), d.saveAll (first :: later) = .ok { d with
        naturalLanguage := some d.summary
        isValid := d.validate.isValid
        createdAt := d.createdAt.or (some first.time)
        updatedAt := some (later.getLastD first).time
        userId := (lastUser? (first :: later)).or d.userId }) ∧
    ((∀ c ∈ d.name.toList, Text.isBlank c = true) → ∀ user now, d.prepare user now = .error .nameMissing) ∧
    ((∃ c ∈ d.name.toList, Text.isBlank c = false) →
      (∃ c ∈ d.conditions, given? c.2.field ≠ none ∧ c.2.value.hasLongInteger = true) →
      ∀ user now, d.prepare user now = .error .integerTooLong) ∧
    ∀ s : Save, d.saveAll [s, s] = d.saveAll [s] := by
  refine ⟨fun hname hshort first later => ?_, fun hblank user now => ?_, fun hname hlong user now => ?_, fun s => ?_⟩
  · exact saveAll_eq (isNamed_iff.2 hname) (summaryIsLong_eq_false_iff.2 hshort) first later
  · refine prepare_unnamed (Bool.eq_false_iff.2 fun hnamed => ?_) user now
    obtain ⟨c, hc, hfalse⟩ := isNamed_iff.1 hnamed
    exact Bool.false_ne_true (hfalse.symm.trans (hblank c hc))
  · refine prepare_long (isNamed_iff.2 hname) (Bool.of_not_eq_false fun hshort => ?_) user now
    obtain ⟨c, hc, hfield, hvalue⟩ := hlong
    obtain h | h := summaryIsLong_eq_false_iff.1 hshort c hc
    · exact hfield h
    · exact Bool.false_ne_true (h.symm.trans hvalue)
  · exact saveAll_twice d s

def countingRule (n : Int) : Document :=
  { ofGraph ⟨[⟨"c", default, .condition ⟨some "x", none, some "equals", .int n, none⟩⟩], []⟩ with
    name := "Count"
    userId := some "7" }

theorem countingRule_named (n : Int) : ∃ c ∈ (countingRule n).name.toList, Text.isBlank c = false := by
  change ∃ c ∈ "Count".toList, Text.isBlank c = false
  exact ⟨'C', by decide⟩

def june (day : Nat) (h : 1 ≤ day ∧ day ≤ 30) : Moment := ⟨⟨2025, 6, day, by decide, h⟩, .midnight, none⟩

/-- The second of three saves is by a user, and of the others one gives no user and one an empty name. Without a name
the rule is not saved, nor with a number of too many digits. -/
theorem countingRule_saved :
    (countingRule 2).saveAll [⟨none, june 1 (by decide)⟩, ⟨some "8", june 2 (by decide)⟩,
        ⟨some "", june 3 (by decide)⟩] =
      .ok { countingRule 2 with
        naturalLanguage := some "IF x equals 2"
        isValid := false
        createdAt := some (june 1 (by decide))
        updatedAt := some (june 3 (by decide))
        userId := some "8" } ∧
    { countingRule 2 with name := " " }.prepare none (june 1 (by decide)) = .error .nameMissing ∧
    (countingRule (Number.tenPow 4300)).prepare none (june 1 (by decide)) = .error .integerTooLong := by
  have hblank : ∀ c ∈ [' '], Text.isBlank c = true := List.forall_mem_singleton.2 rfl
  refine ⟨?_, ?_, ?_⟩
  · exact (saveAll_outcome (countingRule 2)).1 (countingRule_named 2) (by decide +kernel) _ _
  · exact (saveAll_outcome { countingRule 2 with name := " " }).2.1 hblank none _
  · exact (saveAll_outcome (countingRule (Number.tenPow 4300))).2.2.1 (countingRule_named _) (by decide +kernel) none _

/-- A rule with a name that is not saved. -/
theorem longInteger_notSaved :
    (∃ c ∈ (countingRule (Number.tenPow 4300)).name.toList, Text.isBlank c = false) ∧
    (countingRule (Number.tenPow 4300)).saveAll [⟨none, june 1 (by decide)⟩] = .error .integerTooLong := by
  have hlong : (countingRule (Number.tenPow 4300)).summaryIsLong = true := by decide +kernel
  exact ⟨countingRule_named _, saveAll_of_error (prepare_long (isNamed_iff.2 (countingRule_named _)) hlong) _ _⟩

end Document

end BlockRules
