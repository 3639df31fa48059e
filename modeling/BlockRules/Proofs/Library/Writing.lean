import BlockRules.Library.Files

set_option autoImplicit false

namespace BlockRules.Files

def IsWritable (f : Files) (p : Path) : Prop := ∃ f', f.write p [] = .ok f'

def withFile (f : Files) (place : List String) (content : List UInt8) : Files :=
  { f with entries := Keyed.put place (.file content) f.entries }

/-- A place that a file can be written at, which a path leads to. -/
structure Target (f : Files) (p : Path) (place : List String) : Prop where
  named : (p.names.any fun name => name.contains '\x00') = false
  short : f.isTooLong p = false
  located : f.locate? [] p.names = some place
  free : f.entry? place ≠ some .directory

theorem write_eq_ok_iff {f f' : Files} {p : Path} {content : List UInt8} :
    f.write p content = .ok f' ↔ ∃ place, f.Target p place ∧ f' = f.withFile place content := by
  unfold write
  constructor
  · intro h
    split at h
    · cases h
    · rename_i hnamed
      split at h
      · cases h
      · rename_i hshort
        split at h
        · cases h
        · rename_i place hlocated
          split at h
          · cases h
          · rename_i hfree
            exact ⟨place, ⟨Bool.eq_false_iff.2 hnamed, Bool.eq_false_iff.2 hshort, hlocated, hfree⟩,
              (Except.ok.inj h).symm⟩
  · rintro ⟨place, ⟨hnamed, hshort, hlocated, hfree⟩, rfl⟩
    rw [hnamed, hshort, hlocated]
    simp only [Bool.false_eq_true, if_false]
    rfl

variable {f : Files} {place : List String} {content : List UInt8}

theorem entry?_withFile_self (h : f.entry? place ≠ some .directory) :
    Files.entry? (f.withFile place content) place = some (.file content) := by
  have hplace : place ≠ [] := by
    rintro rfl
    exact h rfl
  unfold entry?
  rw [if_neg hplace]
  exact Keyed.get?_put_self f.entries place _

theorem entry?_withFile_of_ne {other : List String} (h : other ≠ place) :
    Files.entry? (f.withFile place content) other = f.entry? other := by
  unfold entry?
  split
  · rfl
  · exact Keyed.get?_put_of_ne h f.entries _

theorem entry?_withFile_of_directory (h : f.entry? place ≠ some .directory) {other : List String}
    (hother : f.entry? other = some .directory) : Files.entry? (f.withFile place content) other = some .directory := by
  have hne : other ≠ place := by
    rintro rfl
    exact h hother
  rw [entry?_withFile_of_ne hne, hother]

/-- A path leads where it led, along names that are no longer than they were. -/
theorem locate?_withFile (h : f.entry? place ≠ some .directory) {names start found : List String}
    (hfound : f.locate? start names = some found) :
    (f.withFile place content).locate? start names = some found ∧
      (f.withFile place content).reachesLongName start names = f.reachesLongName start names := by
  induction names generalizing start with
  | nil => exact ⟨hfound, rfl⟩
  | cons name rest ih =>
    rw [locate?] at hfound ⊢
    rw [reachesLongName, reachesLongName]
    by_cases hdirectory : f.entry? start = some .directory
    · rw [entry?_withFile_of_directory h hdirectory, hdirectory]
      rw [hdirectory] at hfound
      simp only [ne_eq, not_true_eq_false, if_false] at hfound ⊢
      split at hfound
      · rename_i hup
        rw [if_pos hup, if_pos hup]
        split at hfound
        · cases hfound
        · rename_i htop
          rw [if_neg htop, (ih hfound).2]
          exact ⟨(ih hfound).1, rfl⟩
      · rename_i hdown
        rw [if_neg hdown, if_neg hdown, (ih hfound).2]
        exact ⟨(ih hfound).1, rfl⟩
    · rw [if_pos hdirectory] at hfound
      cases hfound

theorem Target.find?_withFile {p : Path} (h : f.Target p place) (content : List UInt8) :
    (f.withFile place content).find? p = some (.file content) ∧ (f.withFile place content).isTooLong p = false := by
  obtain ⟨hlocated, hlong⟩ := locate?_withFile h.free h.located
  constructor
  · rw [find?, hlocated, Option.bind_some, entry?_withFile_self h.free]
  · have hshort := h.short
    unfold isTooLong at hshort ⊢
    rw [hlong]
    exact hshort

end BlockRules.Files
