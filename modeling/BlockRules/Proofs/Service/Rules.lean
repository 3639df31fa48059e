import BlockRules.Proofs.Library.Calls
import BlockRules.Service.Exchange

set_option autoImplicit false

/-!
# The rules of a service

A service reads its rules when it is first asked for them, and keeps what it has read, also where reading fails. So
whatever it has been used for, it has either not read them or holds the library of its first reading, and all that
comes after a failure is answered from as much of the rules as had been read.
-/
namespace BlockRules.Service

variable {s s' : Service}

theorem rules_of_some {l : Library} (h : s.library = some l) : s.rules = (s, .ok l) := by
  rw [rules, h]

def reading (s : Service) : Except LoadError Library :=
  match s.readLibrary.2 with
  | .error (.directoryMissing _) => .ok s.readLibrary.1
  | .error e => .error e
  | .ok _ => .ok s.readLibrary.1

theorem rules_of_none (h : s.library = none) :
    s.rules = ({ s with library := some s.readLibrary.1 }, s.reading) := by
  rw [rules, h, reading]
  dsimp only
  split <;> simp_all

theorem reading_eq_ok_iff {l : Library} : s.reading = .ok l ↔
    l = s.readLibrary.1 ∧ ∀ e, s.readLibrary.2 = .error e → ∃ path, e = .directoryMissing path := by
  unfold reading
  split
  · rename_i path hmissing
    rw [hmissing, Except.ok.injEq, eq_comm]
    exact ⟨fun h => ⟨h, fun e he => ⟨path, (Except.error.inj he).symm⟩⟩, And.left⟩
  · rename_i e hother hfailed
    rw [hfailed]
    constructor
    · exact fun h => nomatch h
    · rintro ⟨-, h⟩
      obtain ⟨path, rfl⟩ := h e rfl
      exact absurd rfl (hother path)
  · rename_i ds hread
    rw [hread, Except.ok.injEq, eq_comm]
    exact ⟨fun h => ⟨h, fun e he => nomatch he⟩, And.left⟩

theorem withRules_of_ok {α : Type} {l : Library} (h : s.rules.2 = .ok l) (f : Library → Except Refusal α) :
    s.withRules f = (s.rules.1, f l) := by
  unfold withRules
  dsimp only
  rw [h]

/-- Settings and files stay, and the library stays too, unless it is read now. -/
structure LeadsTo (s s' : Service) : Prop where
  settings : s'.settings = s.settings
  files : s'.files = s.files
  library : s'.library = s.library ∨ s'.library = some (s.library.getD s.readLibrary.1)

theorem leadsTo_refl (s : Service) : s.LeadsTo s := ⟨rfl, rfl, .inl rfl⟩

theorem LeadsTo.readLibrary_eq (h : s.LeadsTo s') : s'.readLibrary = s.readLibrary := by
  unfold readLibrary rulesPlace
  rw [h.settings, h.files]

theorem LeadsTo.trans {s'' : Service} (h : s.LeadsTo s') (h' : s'.LeadsTo s'') : s.LeadsTo s'' := by
  refine ⟨h'.settings.trans h.settings, h'.files.trans h.files, ?_⟩
  obtain hlibrary | hlibrary := h.library <;> obtain hlibrary' | hlibrary' := h'.library
  · exact .inl (hlibrary'.trans hlibrary)
  · exact .inr (by rw [hlibrary', hlibrary, h.readLibrary_eq])
  · exact .inr (hlibrary'.trans hlibrary)
  · exact .inr (by rw [hlibrary', hlibrary, Option.getD_some])

theorem library_rules (s : Service) : s.rules.1.library = some (s.library.getD s.readLibrary.1) := by
  cases h : s.library with
  | some l => rw [rules_of_some h, h, Option.getD_some]
  | none => rw [rules_of_none h, Option.getD_none]

theorem library_rules_of_ok {l : Library} (h : s.rules.2 = .ok l) : s.rules.1.library = some l := by
  cases hlibrary : s.library with
  | some l' =>
    rw [rules_of_some hlibrary] at h ⊢
    rw [hlibrary, Except.ok.inj h]
  | none =>
    rw [rules_of_none hlibrary] at h ⊢
    rw [(reading_eq_ok_iff.1 h).1]

theorem leadsTo_rules (s : Service) : s.LeadsTo s.rules.1 := by
  refine ⟨?_, ?_, .inr s.library_rules⟩ <;>
    cases h : s.library with
    | some l => rw [rules_of_some h]
    | none => rw [rules_of_none h]

theorem leadsTo_withRules {α : Type} (s : Service) (f : Library → Except Refusal α) :
    s.LeadsTo (s.withRules f).1 := s.leadsTo_rules

theorem leadsTo_snapshot (s : Service) (device : Device) : s.LeadsTo (s.snapshot device).1 := ⟨rfl, rfl, .inl rfl⟩

theorem leadsTo_test (s : Service) (device : Device) (r : StoredRequest) (d : Document) :
    s.LeadsTo (s.test device r d).1 := by
  unfold test
  cases r.useSnapshot with
  | true => exact s.leadsTo_snapshot device
  | false => exact s.leadsTo_refl

theorem leadsTo_evaluateStored (s : Service) (device : Device) (id : String) (r : StoredRequest) :
    s.LeadsTo (s.evaluateStored device id r).1 := by
  have hrules := s.leadsTo_withRules fun l => lookUp l id
  unfold evaluateStored
  split
  · rename_i s' d hfound
    rw [hfound] at hrules
    exact hrules.trans (s'.leadsTo_test device r d)
  · rename_i s' e hfailed
    rw [hfailed] at hrules
    exact hrules

theorem leadsTo_answer (s : Service) (device : Device) (page : Page) (body : List Char) :
    s.LeadsTo (s.answer device page body).1 := by
  unfold answer
  cases page with
  | rules => exact s.leadsTo_withRules _
  | rule id => exact s.leadsTo_withRules _
  | evaluateStored id =>
    dsimp only
    split
    · exact s.leadsTo_refl
    · exact s.leadsTo_evaluateStored device id _
  | metrics => exact s.leadsTo_snapshot device
  | home | health | validate | render | prepare | evaluate => exact s.leadsTo_refl

theorem leadsTo_respond (s : Service) (device : Device) (r : Request) : s.LeadsTo (s.respond device r).1 := by
  have hpage : s.LeadsTo (s.answerPage device (Text.upper r.method) r).1 := by
    unfold answerPage
    split
    · exact s.leadsTo_answer device _ _
    · exact s.leadsTo_refl
  unfold respond
  dsimp only
  split
  · exact s.leadsTo_refl
  · dsimp only
    exact hpage

inductive Use where
  | rules
  | request (device : Device) (r : Request)

def use (s : Service) : Use → Service
  | .rules => s.rules.1
  | .request device r => (s.respond device r).1

def after (s : Service) (uses : List Use) : Service := uses.foldl use s

theorem leadsTo_use (s : Service) (u : Use) : s.LeadsTo (s.use u) := by
  cases u with
  | rules => exact s.leadsTo_rules
  | request device r => exact s.leadsTo_respond device r

theorem leadsTo_after (s : Service) (uses : List Use) : s.LeadsTo (s.after uses) := by
  induction uses generalizing s with
  | nil => exact s.leadsTo_refl
  | cons u uses ih => exact (s.leadsTo_use u).trans (ih (s.use u))

namespace LeadsTo

theorem rules_of_some {l : Library} (h : s.LeadsTo s') (hlibrary : s.library = some l) : s'.rules.2 = .ok l := by
  have hsame : s'.library = some l := by
    obtain hsame | hread := h.library
    · exact hsame.trans hlibrary
    · rw [hread, hlibrary, Option.getD_some]
  rw [Service.rules_of_some hsame]

variable (h : s.LeadsTo s') (hfirst : s.library = none)
include h hfirst

theorem library_rules : s'.rules.1.library = some s.readLibrary.1 := by
  rw [Service.library_rules]
  obtain hsame | hread := h.library
  · rw [hsame, hfirst, Option.getD_none, h.readLibrary_eq]
  · rw [hread, hfirst, Option.getD_some, Option.getD_none]

theorem rules_eq : s'.rules.2 = s.reading ∨ s'.rules.2 = .ok s.readLibrary.1 := by
  obtain hsame | hread := h.library
  · rw [rules_of_none (hsame.trans hfirst), reading, reading, h.readLibrary_eq]
    exact .inl rfl
  · rw [Service.rules_of_some hread, hfirst]
    exact .inr rfl

end LeadsTo

/-- Once a service has been asked for its rules, it gives the library that it has read then, even if it failed to read
all of it. So it gives the same at any time if and only if it can read its rules or their directory is missing. -/
theorem rules_after (settings : Settings) (files : Files) (uses uses' : List Use) :
    let first := start settings files
    ((first.after uses).rules.1.after uses').rules.2 = .ok first.readLibrary.1 ∧
      ((∀ uses, (first.after uses).rules.2 = first.rules.2) ↔
        ∀ e, first.readLibrary.2 = .error e → ∃ path, e = .directoryMissing path) := by
  intro first
  have hlater : ∀ uses uses', ((first.after uses).rules.1.after uses').rules.2 = .ok first.readLibrary.1 :=
    fun uses uses' => (leadsTo_after _ uses').rules_of_some ((first.leadsTo_after uses).library_rules rfl)
  have hfirst : first.rules.2 = first.reading := by rw [rules_of_none rfl]
  refine ⟨hlater uses uses', fun hsame => ?_, fun hreads uses => ?_⟩
  · have hread : first.rules.2 = .ok first.readLibrary.1 := (hsame [.rules]).symm.trans (hlater [] [])
    exact (reading_eq_ok_iff.1 (hfirst.symm.trans hread)).2
  · have hread : first.reading = .ok first.readLibrary.1 := reading_eq_ok_iff.2 ⟨rfl, hreads⟩
    rw [hfirst, hread]
    exact ((first.leadsTo_after uses).rules_eq rfl).elim (fun h => h.trans hread) id

/-- Where the name of the rules' directory is empty, the first to ask for the rules is told that there is no
directory, and everybody after that gets a library without rules. -/
theorem rules_ofEmptyName :
    let first := start { Settings.default with rulesDirectory := some "" } (.empty "rules")
    first.rules.2 = .error .noDirectory ∧ (first.after [.rules]).rules.2 = .ok (.empty none) :=
  ⟨rfl, rfl⟩

end BlockRules.Service
