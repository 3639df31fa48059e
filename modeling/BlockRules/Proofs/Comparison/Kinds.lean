import BlockRules.Comparison.Comparator
import BlockRules.Proofs.Value.Same

set_option autoImplicit false

namespace BlockRules

namespace Value

theorem exists_scalar_of_kind (s : Scalar) {v : Value} (h : v.kind = s.kind) :
    ∃ t, v = .scalar t ∧ t.kind = s.kind := by
  cases v with
  | scalar t => exact ⟨t, rfl, h⟩
  | again isObject => cases isObject <;> cases s <;> cases h
  | list | object | entry | set => cases s <;> cases h

theorem exists_bool_of_kind {v : Value} (h : v.kind = .bool) : ∃ b, v = .bool b := by
  obtain ⟨t, rfl, ht⟩ := exists_scalar_of_kind (.bool true) h
  cases t with
  | bool b => exact ⟨b, rfl⟩
  | _ => cases ht

theorem exists_number_of_kind {v : Value} (h : v.kind = .number) : (∃ n, v = .int n) ∨ ∃ x, v = .float x := by
  obtain ⟨t, rfl, ht⟩ := exists_scalar_of_kind (.int 0) h
  cases t with
  | int n => exact .inl ⟨n, rfl⟩
  | float x => exact .inr ⟨x, rfl⟩
  | _ => cases ht

theorem exists_text_of_kind {v : Value} (h : v.kind = .text) : ∃ s, v = .text s := by
  obtain ⟨t, rfl, ht⟩ := exists_scalar_of_kind (.text "") h
  cases t with
  | text s => exact ⟨s, rfl⟩
  | _ => cases ht

/-- The value as it is compared with one of a kind: a truth value is a number to all other kinds, and a text is one to
numbers and truth values. -/
def convertedFor (kind : Kind) : Value → Value
  | .bool b => if kind = .bool then .bool b else .float (numberOfBool b)
  | .text s => if kind = .number ∨ kind = .bool then .float (wholeNumberOf s) else .text s
  | v => v

theorem convertedFor_eq_self {kind : Kind} {v : Value} (hbool : v.kind = .bool → kind = .bool)
    (htext : v.kind = .text → ¬(kind = .number ∨ kind = .bool)) : v.convertedFor kind = v := by
  unfold convertedFor
  split
  · exact if_pos (hbool rfl)
  · exact if_neg (htext rfl)
  · rfl

theorem convertedFor_own_kind (v : Value) : v.convertedFor v.kind = v := by
  refine convertedFor_eq_self id fun h => ?_
  rw [h]
  decide

theorem same_scalar_comm (s : Scalar) (v : Value) : same (.scalar s) v = v.same (.scalar s) := by
  cases v with
  | scalar t => exact Scalar.same_comm s t
  | list | object | entry | set | again => rfl

theorem same_null_convertedFor {kind : Kind} {v : Value} (h : v ≠ .null) :
    same .null (v.convertedFor kind) = false := by
  unfold convertedFor
  split
  · split <;> rfl
  · split <;> rfl
  · cases v with
    | scalar s => cases s <;> first | rfl | exact absurd rfl h
    | list | object | entry | set | again => rfl

theorem equalsNumber_eq_same {number : Scalar} {kind : Kind} {v : Value} (hv : v.kind ≠ .bool)
    (hkind : kind = .number ∨ kind = .bool) : equalsNumber number v = same (.scalar number) (v.convertedFor kind) := by
  by_cases htext : ∃ s, v = .text s
  · obtain ⟨s, rfl⟩ := htext
    rw [convertedFor, if_pos hkind]
    rfl
  · rw [convertedFor_eq_self (fun h => absurd h hv) fun h => absurd (exists_text_of_kind h) htext]
    unfold equalsNumber
    split
    · exact absurd ⟨_, rfl⟩ htext
    · rfl

/-- Loose equality is sameness, each side being converted for the kind of the other. -/
theorem looseEquals_eq_same (left right : Value) :
    left.looseEquals right = (left.convertedFor right.kind).same (right.convertedFor left.kind) := by
  have hnotBool : ∀ {v : Value}, (∀ b, v = .bool b → False) → v.kind ≠ .bool := fun h hv =>
    (exists_bool_of_kind hv).elim h
  have hnotNumber : ∀ {v : Value}, (∀ n, v = .int n → False) → (∀ x, v = .float x → False) → v.kind ≠ .number :=
    fun hint hfloat hv => (exists_number_of_kind hv).elim (·.elim hint) (·.elim hfloat)
  unfold looseEquals
  -- In the order of the conversions: null, truth values, numbers on the left, numbers on the right, the rest.
  split
  · rfl
  · rename_i hright
    exact (same_null_convertedFor hright).symm
  · rename_i hleft
    exact (same_null_convertedFor hleft).symm.trans (same_scalar_comm _ _)
  · rename_i a b
    cases a <;> cases b <;> rfl
  · rename_i a hright
    rw [equalsNumber_eq_same (hnotBool hright) (.inr rfl), convertedFor, if_neg (hnotBool hright)]
    rfl
  · rename_i b hleft
    rw [equalsNumber_eq_same (hnotBool hleft) (.inr rfl), same_scalar_comm, convertedFor, if_neg (hnotBool hleft)]
    rfl
  · rename_i hright
    exact equalsNumber_eq_same (hnotBool hright) (.inl rfl)
  · rename_i hright
    exact equalsNumber_eq_same (hnotBool hright) (.inl rfl)
  · rename_i hleft _ _
    rw [equalsNumber_eq_same (hnotBool hleft) (.inl rfl), same_scalar_comm]
    rfl
  · rename_i hleft _ _
    rw [equalsNumber_eq_same (hnotBool hleft) (.inl rfl), same_scalar_comm]
    rfl
  · rename_i hleftBool hleftInt hleftFloat _ hrightBool hrightInt hrightFloat _ _
    have hleft : ¬(left.kind = .number ∨ left.kind = .bool) :=
      not_or.2 ⟨hnotNumber hleftInt hleftFloat, hnotBool hleftBool⟩
    have hright : ¬(right.kind = .number ∨ right.kind = .bool) :=
      not_or.2 ⟨hnotNumber hrightInt hrightFloat, hnotBool hrightBool⟩
    rw [convertedFor_eq_self (fun h => absurd (.inr h) hleft) fun _ => hright]
    rw [convertedFor_eq_self (fun h => absurd (.inr h) hright) fun _ => hleft]

theorem looseEquals_of_kind {left right : Value} (h : left.kind = right.kind) :
    left.looseEquals right = left.same right := by
  rw [looseEquals_eq_same, ← h, convertedFor_own_kind, h, convertedFor_own_kind]

theorem strictEquals_eq_true_iff {left right : Value} :
    left.strictEquals right = true ↔ left.kind = right.kind ∧ left.looseEquals right = true := by
  rw [strictEquals, Bool.and_eq_true, beq_iff_eq]
  refine and_congr_right fun h => ?_
  rw [looseEquals_of_kind h]

theorem strictEquals_of_kind {left right : Value} (h : left.kind = right.kind) :
    left.strictEquals right = left.looseEquals right := by
  rw [Bool.eq_iff_iff, strictEquals_eq_true_iff, and_iff_right h]

end Value

namespace Condition

def comparedBy (c : Condition) (name : String) : Condition := { c with operator := some name }

def actual? (c : Condition) (inputs : Inputs) : Option Value := c.input?.bind fun name => inputs.lookup name

theorem holds_comparedBy (c : Condition) (inputs : Inputs) (name : String) {comparator : Comparator}
    (h : Comparator.ofName? name = some comparator) :
    (c.comparedBy name).holds inputs =
      (c.actual? inputs).elim (.ok false) fun actual => comparator.holds actual c.value := by
  have hactual : (c.comparedBy name).actual? inputs = c.actual? inputs := rfl
  have hname : (c.comparedBy name).operator.getD "" = name := rfl
  rw [holds, ← actual?, hactual, hname, h]
  cases c.actual? inputs <;> rfl

/-- Two values are strictly equal if and only if they are of one kind and loosely equal. So a condition that holds by
`===` holds by `==`, one that holds by `!=` holds by `!==`, and where the strict comparison and the loose one differ,
the input and the value of the condition are of different kinds. -/
theorem strictEquals_iff_kind_and_looseEquals :
    (∀ left right : Value,
      left.strictEquals right = true ↔ left.kind = right.kind ∧ left.looseEquals right = true) ∧
    ∀ (c : Condition) (inputs : Inputs),
      ((c.comparedBy "===").holds inputs = .ok true → (c.comparedBy "==").holds inputs = .ok true) ∧
      ((c.comparedBy "!=").holds inputs = .ok true → (c.comparedBy "!==").holds inputs = .ok true) ∧
      ((c.comparedBy "===").holds inputs ≠ (c.comparedBy "==").holds inputs ∨
          (c.comparedBy "!==").holds inputs ≠ (c.comparedBy "!=").holds inputs →
        ∃ actual, c.actual? inputs = some actual ∧ actual.kind ≠ c.value.kind) := by
  refine ⟨fun left right => Value.strictEquals_eq_true_iff, fun c inputs => ?_⟩
  rw [holds_comparedBy c inputs "===" rfl, holds_comparedBy c inputs "==" rfl]
  rw [holds_comparedBy c inputs "!==" rfl, holds_comparedBy c inputs "!=" rfl]
  cases c.actual? inputs with
  | none => simp
  | some actual =>
    have hstrict : actual.strictEquals c.value = true → actual.looseEquals c.value = true :=
      fun h => (Value.strictEquals_eq_true_iff.1 h).2
    have hsame : actual.kind = c.value.kind → actual.strictEquals c.value = actual.looseEquals c.value :=
      Value.strictEquals_of_kind
    simp only [Option.elim_some, Option.some.injEq, exists_eq_left', Comparator.holds, Except.ok.injEq]
    refine ⟨hstrict, fun hloose => ?_, fun hdiffer hkind => ?_⟩
    · cases h : actual.strictEquals c.value with
      | false => rfl
      | true => rw [hstrict h] at hloose; exact hloose
    · rw [hsame hkind] at hdiffer
      exact hdiffer.elim (· rfl) (· rfl)

def scoreIs (value : Value) : Condition := ⟨some "score", none, none, value, none⟩

def twenty : Value := .float (.ofDecimal false 20 0)

/-- Twenty is twenty, written as an integer or not; the text is equal to it and of another kind. -/
theorem scoreIs_twenty :
    (((scoreIs twenty).comparedBy "===").holds [("score", .int 20)] = .ok true ∧
      ((scoreIs twenty).comparedBy "==").holds [("score", .int 20)] = .ok true) ∧
    (((scoreIs twenty).comparedBy "!=").holds [("score", .int 21)] = .ok true ∧
      ((scoreIs twenty).comparedBy "!==").holds [("score", .int 21)] = .ok true) ∧
    ((scoreIs twenty).comparedBy "===").holds [("score", .text "20")] = .ok false ∧
    ((scoreIs twenty).comparedBy "==").holds [("score", .text "20")] = .ok true ∧
    ∃ actual, (scoreIs twenty).actual? [("score", .text "20")] = some actual ∧ actual.kind ≠ twenty.kind := by
  have hsame : ((scoreIs twenty).comparedBy "===").holds [("score", .int 20)] = .ok true := by decide +kernel
  have hother : ((scoreIs twenty).comparedBy "!=").holds [("score", .int 21)] = .ok true := by decide +kernel
  have hstrict : ((scoreIs twenty).comparedBy "===").holds [("score", .text "20")] = .ok false := by decide +kernel
  have hloose : ((scoreIs twenty).comparedBy "==").holds [("score", .text "20")] = .ok true := by decide +kernel
  have hlaws := strictEquals_iff_kind_and_looseEquals.2 (scoreIs twenty)
  refine ⟨⟨hsame, (hlaws _).1 hsame⟩, ⟨hother, (hlaws _).2.1 hother⟩, hstrict, hloose, (hlaws _).2.2 (.inl ?_)⟩
  rw [hstrict, hloose]
  exact nofun

end Condition

end BlockRules
