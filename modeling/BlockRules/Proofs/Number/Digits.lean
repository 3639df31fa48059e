import BlockRules.Calendar.Reading
import BlockRules.Text.Blank
import BlockRules.Text.Hex

set_option autoImplicit false

namespace BlockRules

namespace Text
open Number

theorem isDigit_of_mem_repr {n : Nat} {c : Char} (h : c ∈ n.repr.toList) : c.isDigit = true := by
  rw [Nat.toList_repr] at h
  exact Nat.isDigit_of_mem_toDigits (by decide) (by decide) h

theorem isDigit_of_mem_padded {width n : Nat} {c : Char} (h : c ∈ padded width n) : c.isDigit = true := by
  rw [padded, List.mem_append] at h
  obtain hzero | hdigit := h
  · rw [List.eq_of_mem_replicate hzero]
    rfl
  · exact isDigit_of_mem_repr hdigit

theorem length_padded {width n : Nat} (hwidth : 0 < width) (hn : n < tenPow width) :
    (padded width n).length = width := by
  have hlength : n.repr.toList.length ≤ width := by
    rw [Nat.toList_repr]
    exact (Nat.length_toDigits_le_iff (by decide) hwidth).2 hn
  rw [padded, List.length_append, List.length_replicate]
  omega

theorem ofDigitChars_padded (width n : Nat) : Nat.ofDigitChars 10 (padded width n) 0 = n := by
  rw [padded, Nat.ofDigitChars_append, Nat.ofDigitChars_replicate_zero, Nat.mul_zero, Nat.toList_repr]
  exact Nat.ofDigitChars_ten_toDigits

theorem digitValue?_lt {c : Char} {d : Nat} (h : digitValue? c = some d) : d < 10 := by
  obtain ⟨z, hzero, rfl⟩ := Option.map_eq_some_iff.1 h
  have hrange := List.find?_some hzero
  simp only [Bool.and_eq_true, decide_eq_true_eq] at hrange
  omega

theorem digitValue?_of_isDigit {c : Char} (h : c.isDigit = true) : digitValue? c = some (c.toNat - '0'.toNat) := by
  obtain ⟨hlow, hhigh⟩ := Char.isDigit_iff_toNat.1 h
  have hzero : (decide ('0'.toNat ≤ c.toNat) && decide (c.toNat < '0'.toNat + 10)) = true := by
    have hnine : '9'.toNat + 1 = '0'.toNat + 10 := rfl
    rw [Bool.and_eq_true, decide_eq_true_eq, decide_eq_true_eq]
    omega
  have hfind : zeros.find? (fun z => z ≤ c.toNat && c.toNat < z + 10) = some '0'.toNat :=
    List.find?_cons_of_pos hzero
  rw [digitValue?, hfind, Option.map_some]

theorem isDigit_of_isDigit {c : Char} (h : c.isDigit = true) : isDigit c = true := by
  rw [isDigit, digitValue?_of_isDigit h, Option.isSome_some]

theorem isBlank_of_isDigit {c : Char} (h : c.isDigit = true) : isBlank c = false := by
  obtain ⟨hlow, hhigh⟩ := Char.isDigit_iff_toNat.1 h
  simp [isBlank, isWhiteSpace] at *
  omega

theorem digitsValue_eq_ofDigitChars {digits : List Char} (h : ∀ c ∈ digits, c.isDigit = true) :
    digitsValue digits = Nat.ofDigitChars 10 digits 0 := by
  rw [digitsValue, Nat.ofDigitChars_eq_foldl]
  apply List.foldl_rel rfl
  rintro c hc n - rfl
  rw [digitValue?_of_isDigit (h c hc), Option.getD_some]

theorem digitsValue_repr (n : Nat) : digitsValue n.repr.toList = n := by
  rw [digitsValue_eq_ofDigitChars fun c hc => isDigit_of_mem_repr hc, Nat.toList_repr]
  exact Nat.ofDigitChars_ten_toDigits

theorem digitsValue_lt (digits : List Char) : digitsValue digits < tenPow digits.length := by
  suffices h : ∀ start width, start < tenPow width →
      digits.foldl (fun n c => 10 * n + (digitValue? c).getD 0) start < tenPow (digits.length + width) from
    h 0 0 (by decide)
  induction digits with
  | nil =>
    intro start width h
    rwa [List.length_nil, Nat.zero_add]
  | cons c digits ih =>
    intro start width h
    have hdigit : (digitValue? c).getD 0 < 10 := by
      cases hc : digitValue? c with
      | none => decide
      | some d => exact digitValue?_lt hc
    have hnext : 10 * start + (digitValue? c).getD 0 < tenPow (width + 1) := by
      have hpower : tenPow (width + 1) = 10 * tenPow width := Nat.pow_succ'
      omega
    rw [List.foldl_cons, List.length_cons, Nat.add_assoc, Nat.add_comm 1 width]
    exact ih _ _ hnext

end Text

namespace Moment
open Number Text

theorem isDigit_iff {c : Char} : c.isDigit = true ↔ '0' ≤ c ∧ c ≤ '9' := by
  rw [Char.isDigit, Bool.and_eq_true, decide_eq_true_eq, decide_eq_true_eq]
  exact Iff.rfl

theorem asciiDigit?_of_isDigit {c : Char} (h : c.isDigit = true) :
    asciiDigit? c = some (c.toNat - '0'.toNat) := by
  rw [asciiDigit?, if_pos (isDigit_iff.1 h)]

theorem asciiDigit?_of_not_isDigit {c : Char} (h : c.isDigit = false) : asciiDigit? c = none := by
  have hrange : ¬('0' ≤ c ∧ c ≤ '9') := by
    rw [← isDigit_iff, h]
    exact Bool.false_ne_true
  rw [asciiDigit?, if_neg hrange]

theorem takeDigits_append {digits : List Char} (h : ∀ c ∈ digits, c.isDigit = true) (rest : List Char) :
    takeDigits digits.length (digits ++ rest) = some (Nat.ofDigitChars 10 digits 0, rest) := by
  induction digits with
  | nil => rfl
  | cons c digits ih =>
    obtain ⟨hc, hdigits⟩ := List.forall_mem_cons.1 h
    rw [List.length_cons, List.cons_append, takeDigits, asciiDigit?_of_isDigit hc, ih hdigits]
    have hvalue : Nat.ofDigitChars 10 (c :: digits) 0 =
        tenPow digits.length * (c.toNat - '0'.toNat) + Nat.ofDigitChars 10 digits 0 := by
      rw [Nat.ofDigitChars_cons, Nat.mul_zero, Nat.zero_add]
      exact Nat.ofDigitChars_eq_ofDigitChars_zero
    rw [hvalue, Nat.mul_comm]
    rfl

theorem takeDigits_padded {width n : Nat} (hwidth : 0 < width) (hn : n < tenPow width) (rest : List Char) :
    takeDigits width (padded width n ++ rest) = some (n, rest) := by
  have hdigits : ∀ c ∈ padded width n, c.isDigit = true := fun _ hc => isDigit_of_mem_padded hc
  have h := takeDigits_append hdigits rest
  rw [length_padded hwidth hn, ofDigitChars_padded] at h
  exact h

end Moment

end BlockRules
