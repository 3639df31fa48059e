import BlockRules.Proofs.Comparison.Kinds
import BlockRules.Proofs.Number.Decimal
import BlockRules.Proofs.Number.Grammar

set_option autoImplicit false

/-!
# Numbers in texts

Ordering reads the number that a text starts with, blanks aside: an infinity, or else the longest literal. Equality
reads the number that the whole text is. Where equality finds a number, ordering finds the same one.
-/
namespace BlockRules

namespace Text

/-- A text without what meets a test at its two ends. -/
structure IsTrimmed (test : Char → Bool) (s t : List Char) : Prop where
  parts : ∃ before after, s = before ++ (t ++ after) ∧ before.all test = true ∧ after.all test = true
  first : ∀ c ∈ t.head?, test c = false
  last : ∀ c ∈ t.getLast?, test c = false

theorem head?_dropWhile (test : Char → Bool) (s : List Char) : ∀ c ∈ (s.dropWhile test).head?, test c = false := by
  intro c hc
  have h := List.head?_dropWhile_not test s
  rw [Option.mem_def.1 hc] at h
  exact h

theorem isTrimmed_trimBy (test : Char → Bool) (s : List Char) : IsTrimmed test s (trimBy test s) := by
  have hparts := List.takeWhile_append_dropWhile (p := test) (l := s)
  have hfirst := head?_dropWhile test s
  unfold trimBy
  generalize s.dropWhile test = u at hparts hfirst
  have hu : (u.reverse.dropWhile test).reverse ++ (u.reverse.takeWhile test).reverse = u := by
    rw [← List.reverse_append, List.takeWhile_append_dropWhile, List.reverse_reverse]
  refine ⟨⟨s.takeWhile test, (u.reverse.takeWhile test).reverse, ?_, List.all_takeWhile, ?_⟩, ?_, ?_⟩
  · rw [hu, hparts]
  · rw [List.all_reverse]
    exact List.all_takeWhile
  · intro c hc
    refine hfirst c ?_
    rw [← hu, List.head?_append, hc]
    rfl
  · rw [List.getLast?_reverse]
    exact head?_dropWhile test _

end Text

namespace Number
open Text

/-- The word with an optional sign. -/
inductive WritesInfinity : Bool → List Char → Prop where
  | word {negative : Bool} {sign : List Char} (hsign : sign ∈ signs negative) :
      WritesInfinity negative (sign ++ "Infinity".toList)

theorem takeInfinity_eq_some_iff {s rest : List Char} {x : Binary64} :
    takeInfinity s = some (x, rest) ↔
      ∃ negative p, WritesInfinity negative p ∧ s = p ++ rest ∧ x = .infinite negative := by
  simp only [takeInfinity]
  constructor
  · intro h
    split at h
    · rename_i hword
      cases h
      obtain ⟨sign, hsign, hs⟩ := exists_sign s
      obtain ⟨after, hafter⟩ := List.isPrefixOf_iff_prefix.1 hword
      refine ⟨_, _, .word hsign, ?_, rfl⟩
      rw [← hafter, List.drop_left, List.append_assoc, hafter, ← hs]
    · cases h
  · rintro ⟨negative, p, ⟨hsign⟩, rfl, rfl⟩
    have hhead : ∀ c ∈ ("Infinity".toList ++ rest).head?, c ≠ '+' ∧ c ≠ '-' := fun c hc =>
      Option.some.inj hc ▸ by decide
    rw [List.append_assoc, takeSign_append hsign hhead, List.drop_left]
    exact if_pos (List.isPrefixOf_iff_prefix.2 (List.prefix_append _ _))

theorem takeInfinity_eq_none_iff {s : List Char} :
    takeInfinity s = none ↔ ∀ negative p, p <+: s → ¬WritesInfinity negative p := by
  rw [Option.eq_none_iff_forall_ne_some]
  constructor
  · rintro h negative p ⟨rest, rfl⟩ hwrites
    exact h _ (takeInfinity_eq_some_iff.2 ⟨negative, p, hwrites, rfl, rfl⟩)
  · rintro h ⟨x, rest⟩ hsome
    obtain ⟨negative, p, hwrites, rfl, -⟩ := takeInfinity_eq_some_iff.1 hsome
    exact h negative p (List.prefix_append _ _) hwrites

theorem takeLiteral_eq_none_iff {s : List Char} :
    takeLiteral s = none ↔ ∀ (l : Literal) (p : List Char), p <+: s → ¬l.Writes p := by
  rw [Option.eq_none_iff_forall_ne_some]
  constructor
  · rintro h l p ⟨rest, rfl⟩ hwrites
    obtain ⟨l', rest', htake, -⟩ := takeLiteral_append hwrites rest
    exact h _ htake
  · rintro h ⟨l, rest⟩ hsome
    obtain ⟨p, hwrites, rfl⟩ := writes_of_takeLiteral hsome
    exact h l p (List.prefix_append _ _) hwrites

/-- The number that a text starts with: an infinity, otherwise what is nearest to the longest literal there, and nan
where there is none. -/
inductive StartsWith (t : List Char) : Binary64 → Prop where
  | infinity {negative : Bool} {p : List Char} (hp : p <+: t) (hwrites : WritesInfinity negative p) :
      StartsWith t (.infinite negative)
  | literal {l : Literal} {p : List Char} (hinfinity : ∀ negative p, p <+: t → ¬WritesInfinity negative p)
      (hp : p <+: t) (hwrites : l.Writes p)
      (longest : ∀ (l' : Literal) (p' : List Char), p' <+: t → l'.Writes p' → p'.length ≤ p.length) :
      StartsWith t (.ofQuotient l.negative l.quotient.1 l.quotient.2)
  | nothing (hinfinity : ∀ negative p, p <+: t → ¬WritesInfinity negative p)
      (hliteral : ∀ (l : Literal) (p : List Char), p <+: t → ¬l.Writes p) : StartsWith t .nan

theorem leadingNumberOf_of_infinity {s : String} {x : Binary64} {rest : List Char}
    (h : takeInfinity (strip s.toList) = some (x, rest)) : leadingNumberOf s = x := by
  simp only [leadingNumberOf, h]

theorem leadingNumberOf_of_no_infinity {s : String} (h : takeInfinity (strip s.toList) = none) :
    leadingNumberOf s = (takeLiteral (strip s.toList)).elim .nan fun taken => taken.1.value := by
  simp only [leadingNumberOf, h]
  cases takeLiteral (strip s.toList) <;> rfl

/-- A text starts with the number that is read from it. -/
theorem startsWith_leadingNumberOf (s : String) : StartsWith (strip s.toList) (leadingNumberOf s) := by
  cases hinfinity : takeInfinity (strip s.toList) with
  | some taken =>
    obtain ⟨x, rest⟩ := taken
    rw [leadingNumberOf_of_infinity hinfinity]
    obtain ⟨negative, p, hwrites, hp, rfl⟩ := takeInfinity_eq_some_iff.1 hinfinity
    exact .infinity ⟨rest, hp.symm⟩ hwrites
  | none =>
    rw [leadingNumberOf_of_no_infinity hinfinity]
    have hnone := takeInfinity_eq_none_iff.1 hinfinity
    generalize strip s.toList = t at hnone
    cases hliteral : takeLiteral t with
    | none => exact .nothing hnone (takeLiteral_eq_none_iff.1 hliteral)
    | some taken =>
      obtain ⟨l, rest⟩ := taken
      obtain ⟨p, hwrites, hp⟩ := writes_of_takeLiteral hliteral
      rw [Option.elim_some, l.value_eq_ofQuotient]
      refine .literal hnone ⟨rest, hp.symm⟩ hwrites ?_
      rintro l' p' ⟨rest', hp'⟩ hwrites'
      -- Reading takes at least `p'`, and leaves `rest`.
      obtain ⟨l'', rest'', htake, hsuffix⟩ := takeLiteral_append hwrites' rest'
      rw [hp', hliteral] at htake
      cases htake
      have hlength := congrArg List.length (hp'.trans hp)
      rw [List.length_append, List.length_append] at hlength
      have := hsuffix.length_le
      omega

theorem Literal.Writes.unique {l l' : Literal} {p : List Char} (h : l.Writes p) (h' : l'.Writes p) : l = l' := by
  have htake := (takeLiteral_of_writes h).symm.trans (takeLiteral_of_writes h')
  cases htake
  rfl

theorem StartsWith.unique {t : List Char} {x y : Binary64} (h : StartsWith t x) (h' : StartsWith t y) : x = y := by
  cases h with
  | infinity hp hwrites =>
    cases h' with
    | infinity hp' hwrites' =>
      obtain ⟨rest, hrest⟩ := hp
      obtain ⟨rest', hrest'⟩ := hp'
      have htake := takeInfinity_eq_some_iff.2 ⟨_, _, hwrites, hrest.symm, rfl⟩
      rw [takeInfinity_eq_some_iff.2 ⟨_, _, hwrites', hrest'.symm, rfl⟩] at htake
      cases htake
      rfl
    | literal hinfinity => exact absurd hwrites (hinfinity _ _ hp)
    | nothing hinfinity => exact absurd hwrites (hinfinity _ _ hp)
  | literal hinfinity hp hwrites longest =>
    cases h' with
    | infinity hp' hwrites' => exact absurd hwrites' (hinfinity _ _ hp')
    | literal _ hp' hwrites' longest' =>
      have hlength := Nat.le_antisymm (longest' _ _ hp hwrites) (longest _ _ hp' hwrites')
      have hsame := (List.prefix_of_prefix_length_le hp hp' hlength.le).eq_of_length hlength
      rw [hsame] at hwrites
      rw [hwrites.unique hwrites']
    | nothing _ hliteral => exact absurd hwrites (hliteral _ _ hp)
  | nothing hinfinity hliteral =>
    cases h' with
    | infinity hp' hwrites' => exact absurd hwrites' (hinfinity _ _ hp')
    | literal _ hp' hwrites' => exact absurd hwrites' (hliteral _ _ hp')
    | nothing => rfl

theorem literal?_eq_some_iff {s : List Char} {l : Literal} : literal? s = some l ↔ l.Writes s := by
  unfold literal?
  constructor
  · intro h
    split at h
    · rename_i htake
      cases h
      obtain ⟨p, hwrites, rfl⟩ := writes_of_takeLiteral htake
      rwa [List.append_nil]
    · cases h
  · intro h
    rw [takeLiteral_of_writes h]

theorem takeLiteral_of_infinity {negative : Bool} {p : List Char} (h : WritesInfinity negative p) (rest : List Char) :
    takeLiteral (p ++ rest) = none := by
  obtain ⟨hsign⟩ := h
  have hhead : ∀ c ∈ ("Infinity".toList ++ rest).head?, c ≠ '+' ∧ c ≠ '-' ∧ isDigit c = false := fun c hc =>
    Option.some.inj hc ▸ by decide
  have hnone : takeAllDigits ("Infinity".toList ++ rest) = ([], "Infinity".toList ++ rest) :=
    takeAllDigits_of_head fun c hc => (hhead c hc).2.2
  apply takeLiteral_of_no_mantissa
  rw [List.append_assoc, takeSign_append hsign fun c hc => ⟨(hhead c hc).1, (hhead c hc).2.1⟩]
  rw [takeMantissa_of_no_point (by rw [hnone]; exact nofun), hnone]
  rfl

theorem takeInfinity_of_writes {l : Literal} {s : List Char} (h : l.Writes s) : takeInfinity s = none := by
  refine takeInfinity_eq_none_iff.2 ?_
  rintro negative p ⟨rest, rfl⟩ hinfinity
  have htake := takeLiteral_of_writes h
  rw [takeLiteral_of_infinity hinfinity] at htake
  cases htake

theorem takeInfinity_of_writesInfinity {negative : Bool} {s : List Char} (h : WritesInfinity negative s) :
    takeInfinity s = some (.infinite negative, []) :=
  takeInfinity_eq_some_iff.2 ⟨negative, s, h, (List.append_nil s).symm, rfl⟩

theorem wholeNumberOf_of_infinity {s : String} {negative : Bool} (hs : strip s.toList ≠ [])
    (h : WritesInfinity negative (strip s.toList)) : wholeNumberOf s = .infinite negative := by
  simp only [wholeNumberOf, List.isEmpty_eq_false_iff.2 hs, takeInfinity_of_writesInfinity h, Bool.false_eq_true,
    if_false]

theorem wholeNumberOf_of_no_infinity {s : String} (hs : strip s.toList ≠ [])
    (h : ∀ negative, ¬WritesInfinity negative (strip s.toList)) :
    wholeNumberOf s = (literal? (strip s.toList)).elim .nan Literal.value := by
  simp only [wholeNumberOf, List.isEmpty_eq_false_iff.2 hs, Bool.false_eq_true, if_false]
  split
  · rename_i htake
    obtain ⟨negative, p, hwrites, hp, -⟩ := takeInfinity_eq_some_iff.1 htake
    rw [List.append_nil] at hp
    exact absurd (hp ▸ hwrites) (h negative)
  · cases literal? (strip s.toList) <;> rfl

end Number

namespace Value
open Number Text

/-- A text without the blanks at its ends is read, without an error, as the one number that it starts with. -/
theorem leadingNumber_of_text (s : String) :
    IsTrimmed Text.isBlank s.toList (strip s.toList) ∧
    ∃ x, (Value.text s).leadingNumber = .ok x ∧ ∀ y, StartsWith (strip s.toList) y ↔ y = x := by
  have hread := startsWith_leadingNumberOf s
  refine ⟨isTrimmed_trimBy Text.isBlank s.toList, leadingNumberOf s, rfl, fun y => ⟨fun h => h.unique hread, ?_⟩⟩
  rintro rfl
  exact hread

/-- The exponent has no digits and is not part of the literal; the first two digits are of another script. -/
example : (Value.text "\t١٢.5e+px").leadingNumber = .ok (.ofDecimal false 125 (-1)) := by decide +kernel

theorem looseEquals_text {v : Value} (h : v.kind = .number) (s : String) :
    v.looseEquals (.text s) = v.same (.float (wholeNumberOf s)) := by
  have hconverted : v.convertedFor .text = v :=
    convertedFor_eq_self (fun hbool => by rw [h] at hbool; cases hbool) fun _ => by decide
  have htext : (Value.text s).convertedFor v.kind = .float (wholeNumberOf s) := if_pos (.inl h)
  rw [looseEquals_eq_same, htext]
  exact congrArg (fun w => same w (.float (wholeNumberOf s))) hconverted

/-- A text that is not blank is read as a whole if and only if it is a literal or an infinity, and then as the number
that it starts with. Equality compares a number with the text by this reading. -/
theorem wholeNumber_of_text (s : String) (hs : strip s.toList ≠ []) :
    ∃ x y, (Value.text s).wholeNumber = .ok x ∧ (Value.text s).leadingNumber = .ok y ∧ (x = .nan ∨ x = y) ∧
      (x ≠ .nan ↔ (∃ l : Literal, l.Writes (strip s.toList)) ∨ ∃ negative, WritesInfinity negative (strip s.toList)) ∧
      ∀ v : Value, v.kind = .number → v.looseEquals (.text s) = v.same (.float x) := by
  refine ⟨wholeNumberOf s, leadingNumberOf s, rfl, rfl, ?_⟩
  rw [← and_assoc]
  refine ⟨?_, fun v hv => looseEquals_text hv s⟩
  by_cases hinfinity : ∃ negative, WritesInfinity negative (strip s.toList)
  · obtain ⟨negative, hwrites⟩ := hinfinity
    rw [wholeNumberOf_of_infinity hs hwrites, leadingNumberOf_of_infinity (takeInfinity_of_writesInfinity hwrites)]
    exact ⟨.inr rfl, iff_of_true nofun (.inr ⟨negative, hwrites⟩)⟩
  · rw [wholeNumberOf_of_no_infinity hs (not_exists.1 hinfinity)]
    cases hliteral : literal? (strip s.toList) with
    | none =>
      refine ⟨.inl rfl, iff_of_false (fun h => h rfl) ?_⟩
      rintro (⟨l, hwrites⟩ | h)
      · rw [literal?_eq_some_iff.2 hwrites] at hliteral
        cases hliteral
      · exact hinfinity h
    | some l =>
      have hwrites := literal?_eq_some_iff.1 hliteral
      have hnan : l.value ≠ .nan := by
        intro h
        have hnot := Binary64.isNan_ofQuotient l.negative l.quotient.1 l.quotient.2
        rw [← l.value_eq_ofQuotient, h] at hnot
        cases hnot
      rw [leadingNumberOf_of_no_infinity (takeInfinity_of_writes hwrites), takeLiteral_of_writes hwrites]
      exact ⟨.inr rfl, iff_of_true hnan (.inl ⟨l, hwrites⟩)⟩

/-- Blanks around a literal with a fraction and an exponent. -/
theorem wholeNumber_of_padded :
    strip " -1.25e2\n".toList ≠ [] ∧ (Value.text " -1.25e2\n").wholeNumber = .ok (.ofDecimal true 125 0) ∧
      (Value.text " -1.25e2\n").leadingNumber = .ok (.ofDecimal true 125 0) ∧
      ((∃ l : Literal, l.Writes (strip " -1.25e2\n".toList)) ∨
        ∃ negative, WritesInfinity negative (strip " -1.25e2\n".toList)) ∧
      (Value.int (-125)).looseEquals (.text " -1.25e2\n") = true := by
  have hs : strip " -1.25e2\n".toList ≠ [] := by decide +kernel
  have hwhole : (Value.text " -1.25e2\n").wholeNumber = .ok (.ofDecimal true 125 0) := by decide +kernel
  obtain ⟨x, y, hx, hy, hsame, hnumber, hequals⟩ := wholeNumber_of_text " -1.25e2\n" hs
  rw [hwhole, Except.ok.injEq] at hx
  subst hx
  have hnan : Binary64.ofDecimal true 125 0 ≠ .nan := by decide +kernel
  refine ⟨hs, hwhole, ?_, hnumber.1 hnan, ?_⟩
  · rw [hy, hsame.resolve_left hnan]
  · rw [hequals (.int (-125)) rfl]
    decide +kernel

end Value

end BlockRules
