import BlockRules.Number.Literal
import Mathlib.Data.List.TakeWhile

set_option autoImplicit false

/-!
# The grammar of literals

How literals are written, said without reading them. What is taken from the start of a text is the longest literal
there: it is one, none that begins the text goes beyond it, and where nothing is taken no literal begins the text.
-/
namespace BlockRules.Number
open Text

def AllDigits (s : List Char) : Prop := ∀ c ∈ s, isDigit c = true

def signs (negative : Bool) : List (List Char) := if negative then [['-']] else [[], ['+']]

/-- Digits, or a point with digits before it, after it or on both sides. -/
inductive WritesMantissa : (whole fraction mantissa : List Char) → Prop where
  | digits {whole : List Char} (nonempty : whole ≠ []) (hwhole : AllDigits whole) : WritesMantissa whole [] whole
  | pointed {whole fraction : List Char} (nonempty : whole ≠ [] ∨ fraction ≠ []) (hwhole : AllDigits whole)
      (hfraction : AllDigits fraction) : WritesMantissa whole fraction (whole ++ '.' :: fraction)

inductive WritesExponent : Int → List Char → Prop where
  | absent : WritesExponent 0 []
  | marked {mark : Char} {negative : Bool} {sign digits : List Char} (hmark : mark = 'e' ∨ mark = 'E')
      (hsign : sign ∈ signs negative) (nonempty : digits ≠ []) (hdigits : AllDigits digits) :
      WritesExponent (if negative then -(digitsValue digits : Int) else digitsValue digits)
        (mark :: (sign ++ digits))

/-- A literal is written as a sign, a mantissa and an exponent. -/
inductive Literal.Writes : Literal → List Char → Prop where
  | parts {negative : Bool} {sign whole fraction mantissa power : List Char} {exponent : Int}
      (hsign : sign ∈ signs negative) (hmantissa : WritesMantissa whole fraction mantissa)
      (hpower : WritesExponent exponent power) :
      Writes ⟨negative, whole, fraction, exponent⟩ (sign ++ (mantissa ++ power))

theorem exists_sign (s : List Char) : ∃ sign ∈ signs (takeSign s).1, s = sign ++ (takeSign s).2 := by
  unfold takeSign
  split
  · exact ⟨['+'], .tail _ (.head _), rfl⟩
  · exact ⟨['-'], .head _, rfl⟩
  · exact ⟨[], .head _, rfl⟩

theorem takeSign_append {negative : Bool} {sign s : List Char} (hsign : sign ∈ signs negative)
    (hs : ∀ c ∈ s.head?, c ≠ '+' ∧ c ≠ '-') : takeSign (sign ++ s) = (negative, s) := by
  have hnone : takeSign s = (false, s) := by
    unfold takeSign
    split
    · exact absurd rfl (hs '+' rfl).1
    · exact absurd rfl (hs '-' rfl).2
    · rfl
  cases negative with
  | true =>
    rw [List.mem_singleton.1 hsign]
    rfl
  | false =>
    obtain rfl | hsign := List.mem_cons.1 hsign
    · exact hnone
    · rw [List.mem_singleton.1 hsign]
      rfl

theorem allDigits_takeAllDigits (s : List Char) : AllDigits (takeAllDigits s).1 := fun _ => List.mem_takeWhile_imp

theorem takeAllDigits_parts (s : List Char) : (takeAllDigits s).1 ++ (takeAllDigits s).2 = s :=
  List.takeWhile_append_dropWhile

theorem takeAllDigits_suffix (s : List Char) : (takeAllDigits s).2 <:+ s := List.dropWhile_suffix _

theorem takeAllDigits_append {digits : List Char} (h : AllDigits digits) (s : List Char) :
    takeAllDigits (digits ++ s) = (digits ++ (takeAllDigits s).1, (takeAllDigits s).2) := by
  rw [takeAllDigits, List.takeWhile_append_of_pos h, List.dropWhile_append_of_pos h]
  rfl

theorem takeAllDigits_of_head {s : List Char} (h : ∀ c ∈ s.head?, isDigit c = false) : takeAllDigits s = ([], s) := by
  cases s with
  | nil => rfl
  | cons c s => rw [takeAllDigits, List.takeWhile_cons, List.dropWhile_cons, h c rfl]; rfl

theorem takeMantissa_of_point {s further : List Char} (h : (takeAllDigits s).2 = '.' :: further) :
    takeMantissa s =
      if (takeAllDigits s).1.isEmpty && (takeAllDigits further).1.isEmpty then none
      else some (((takeAllDigits s).1, (takeAllDigits further).1), (takeAllDigits further).2) := by
  simp only [takeMantissa, h]

theorem takeMantissa_of_no_point {s : List Char} (h : ∀ further, (takeAllDigits s).2 ≠ '.' :: further) :
    takeMantissa s =
      if (takeAllDigits s).1.isEmpty then none else some (((takeAllDigits s).1, []), (takeAllDigits s).2) := by
  simp only [takeMantissa]

theorem writesMantissa_of_takeMantissa {s whole fraction rest : List Char}
    (h : takeMantissa s = some ((whole, fraction), rest)) :
    ∃ mantissa, WritesMantissa whole fraction mantissa ∧ s = mantissa ++ rest := by
  have hwhole := allDigits_takeAllDigits s
  have hs := takeAllDigits_parts s
  by_cases hpoint : ∃ further, (takeAllDigits s).2 = '.' :: further
  · obtain ⟨further, hfurther⟩ := hpoint
    have hfraction := allDigits_takeAllDigits further
    rw [takeMantissa_of_point hfurther] at h
    split at h
    · cases h
    · rename_i hsome
      cases h
      rw [Bool.and_eq_true, List.isEmpty_iff, List.isEmpty_iff, not_and_or] at hsome
      refine ⟨_, .pointed hsome hwhole hfraction, ?_⟩
      rw [List.append_assoc, List.cons_append, takeAllDigits_parts, ← hfurther, hs]
  · rw [takeMantissa_of_no_point (not_exists.1 hpoint)] at h
    split at h
    · cases h
    · rename_i hsome
      cases h
      exact ⟨_, .digits (mt List.isEmpty_iff.2 hsome) hwhole, hs.symm⟩

theorem takeMantissa_pointed {whole fraction : List Char} (hsome : whole ≠ [] ∨ fraction ≠ [])
    (hwhole : AllDigits whole) (hfraction : AllDigits fraction) (s : List Char) :
    takeMantissa (whole ++ '.' :: fraction ++ s) =
      some ((whole, fraction ++ (takeAllDigits s).1), (takeAllDigits s).2) := by
  have hpoint : takeAllDigits ('.' :: (fraction ++ s)) = ([], '.' :: (fraction ++ s)) :=
    takeAllDigits_of_head fun c hc => Option.some.inj hc ▸ by decide
  have htake : takeAllDigits (whole ++ '.' :: (fraction ++ s)) = (whole, '.' :: (fraction ++ s)) := by
    rw [takeAllDigits_append hwhole, hpoint, List.append_nil]
  have hnonempty : ¬(whole.isEmpty && (fraction ++ (takeAllDigits s).1).isEmpty) = true := by
    rw [Bool.and_eq_true, List.isEmpty_iff, List.isEmpty_iff, List.append_eq_nil_iff]
    exact fun h => hsome.elim (· h.1) (· h.2.1)
  rw [List.append_assoc, List.cons_append, takeMantissa_of_point (congrArg Prod.snd htake), htake]
  rw [takeAllDigits_append hfraction, if_neg hnonempty]

theorem takeMantissa_append {whole fraction mantissa : List Char} (h : WritesMantissa whole fraction mantissa)
    (s : List Char) : ∃ parts rest, takeMantissa (mantissa ++ s) = some (parts, rest) ∧ rest <:+ s := by
  cases h with
  | pointed nonempty hwhole hfraction =>
    exact ⟨_, _, takeMantissa_pointed nonempty hwhole hfraction s, takeAllDigits_suffix s⟩
  | digits nonempty hwhole =>
    have htake := takeAllDigits_append hwhole s
    have hnonempty : (whole ++ (takeAllDigits s).1).isEmpty = false :=
      List.isEmpty_eq_false_iff.2 (List.append_ne_nil_of_left_ne_nil nonempty _)
    by_cases hpoint : ∃ further, (takeAllDigits s).2 = '.' :: further
    · obtain ⟨further, hfurther⟩ := hpoint
      have hfurther' : (takeAllDigits (whole ++ s)).2 = '.' :: further := (congrArg Prod.snd htake).trans hfurther
      have hsuffix : further <:+ s := (List.suffix_cons '.' further).trans (hfurther ▸ takeAllDigits_suffix s)
      rw [takeMantissa_of_point hfurther', htake, hnonempty, Bool.false_and, if_neg Bool.false_ne_true]
      exact ⟨_, _, rfl, (takeAllDigits_suffix further).trans hsuffix⟩
    · rw [takeMantissa_of_no_point (by rwa [htake, ← not_exists]), htake, hnonempty, if_neg Bool.false_ne_true]
      exact ⟨_, _, rfl, takeAllDigits_suffix s⟩

theorem takeMantissa_append_of_head {whole fraction mantissa s : List Char}
    (h : WritesMantissa whole fraction mantissa) (hs : ∀ c ∈ s.head?, isDigit c = false ∧ c ≠ '.') :
    takeMantissa (mantissa ++ s) = some ((whole, fraction), s) := by
  have hnone : takeAllDigits s = ([], s) := takeAllDigits_of_head fun c hc => (hs c hc).1
  cases h with
  | pointed nonempty hwhole hfraction =>
    rw [takeMantissa_pointed nonempty hwhole hfraction, hnone, List.append_nil]
  | digits nonempty hwhole =>
    have htake : takeAllDigits (whole ++ s) = (whole, s) := by
      rw [takeAllDigits_append hwhole, hnone, List.append_nil]
    have hpoint : ∀ further, (takeAllDigits (whole ++ s)).2 ≠ '.' :: further := by
      rintro further h
      rw [htake] at h
      exact (hs '.' (congrArg List.head? h)).2 rfl
    rw [takeMantissa_of_no_point hpoint, htake, if_neg (mt List.isEmpty_iff.1 nonempty)]

theorem head_of_writesMantissa {whole fraction mantissa : List Char} (h : WritesMantissa whole fraction mantissa)
    (s : List Char) : ∀ c ∈ (mantissa ++ s).head?, c ≠ '+' ∧ c ≠ '-' := by
  have hdigit : ∀ c, isDigit c = true → c ≠ '+' ∧ c ≠ '-' := by
    rintro c hc
    constructor <;> rintro rfl <;> revert hc <;> decide
  intro c hc
  cases h with
  | digits nonempty hwhole =>
    obtain ⟨d, whole, rfl⟩ := List.exists_cons_of_ne_nil nonempty
    obtain rfl := Option.some.inj hc
    exact hdigit d (hwhole d (.head _))
  | pointed nonempty hwhole hfraction =>
    cases whole with
    | nil =>
      obtain rfl := Option.some.inj hc
      decide
    | cons d whole =>
      obtain rfl := Option.some.inj hc
      exact hdigit d (hwhole d (.head _))

theorem takeExponent_of_no_digits {mark : Char} {s : List Char} (h : (takeAllDigits (takeSign s).2).1 = []) :
    takeExponent (mark :: s) = (0, mark :: s) := by
  rw [takeExponent]
  simp only [h, List.isEmpty_nil, if_true, ite_self]

theorem takeExponent_of_digits {mark : Char} {s : List Char} (hmark : mark = 'e' ∨ mark = 'E')
    (h : (takeAllDigits (takeSign s).2).1 ≠ []) :
    takeExponent (mark :: s) =
      (if (takeSign s).1 then -(digitsValue (takeAllDigits (takeSign s).2).1 : Int)
        else digitsValue (takeAllDigits (takeSign s).2).1, (takeAllDigits (takeSign s).2).2) := by
  rw [takeExponent, if_pos hmark]
  exact if_neg (mt List.isEmpty_iff.1 h)

theorem writesExponent_takeExponent (s : List Char) :
    ∃ power, WritesExponent (takeExponent s).1 power ∧ s = power ++ (takeExponent s).2 := by
  cases s with
  | nil => exact ⟨[], .absent, rfl⟩
  | cons mark s =>
    by_cases hmark : mark = 'e' ∨ mark = 'E'
    · by_cases hsome : (takeAllDigits (takeSign s).2).1 = []
      · rw [takeExponent_of_no_digits hsome]
        exact ⟨[], .absent, rfl⟩
      · obtain ⟨sign, hsign, hs⟩ := exists_sign s
        rw [takeExponent_of_digits hmark hsome]
        refine ⟨_, .marked hmark hsign hsome (allDigits_takeAllDigits _), ?_⟩
        rw [List.cons_append, List.append_assoc, takeAllDigits_parts, ← hs]
    · rw [takeExponent, if_neg hmark]
      exact ⟨[], .absent, rfl⟩

theorem takeExponent_marked {mark : Char} {negative : Bool} {sign digits : List Char}
    (hmark : mark = 'e' ∨ mark = 'E') (hsign : sign ∈ signs negative) (hsome : digits ≠ [])
    (hdigits : AllDigits digits) (s : List Char) :
    takeExponent (mark :: (sign ++ (digits ++ s))) =
      (if negative then -(digitsValue (digits ++ (takeAllDigits s).1) : Int)
        else digitsValue (digits ++ (takeAllDigits s).1), (takeAllDigits s).2) := by
  have hsigned := takeSign_append hsign (head_of_writesMantissa (.digits hsome hdigits) s)
  have htake := takeAllDigits_append hdigits s
  have hnonempty : (takeAllDigits (takeSign (sign ++ (digits ++ s))).2).1 ≠ [] := by
    rw [hsigned, htake]
    exact List.append_ne_nil_of_left_ne_nil hsome _
  rw [takeExponent_of_digits hmark hnonempty, hsigned, htake]

theorem takeExponent_of_writes {exponent : Int} {power : List Char} (h : WritesExponent exponent power) :
    takeExponent power = (exponent, []) := by
  cases h with
  | absent => rfl
  | marked hmark hsign nonempty hdigits =>
    have h := takeExponent_marked hmark hsign nonempty hdigits []
    rwa [List.append_nil, show takeAllDigits [] = ([], []) from rfl, List.append_nil] at h

theorem takeLiteral_of_takeMantissa {s whole fraction rest : List Char}
    (h : takeMantissa (takeSign s).2 = some ((whole, fraction), rest)) :
    takeLiteral s = some (⟨(takeSign s).1, whole, fraction, (takeExponent rest).1⟩, (takeExponent rest).2) := by
  rw [takeLiteral]
  simp only [h, Option.map_some]

theorem takeLiteral_of_no_mantissa {s : List Char} (h : takeMantissa (takeSign s).2 = none) :
    takeLiteral s = none := by
  rw [takeLiteral]
  simp only [h, Option.map_none]

/-- What is taken as a literal is one. -/
theorem writes_of_takeLiteral {s rest : List Char} {l : Literal} (h : takeLiteral s = some (l, rest)) :
    ∃ p, l.Writes p ∧ s = p ++ rest := by
  cases hmantissa : takeMantissa (takeSign s).2 with
  | none =>
    rw [takeLiteral_of_no_mantissa hmantissa] at h
    cases h
  | some taken =>
    obtain ⟨⟨whole, fraction⟩, after⟩ := taken
    rw [takeLiteral_of_takeMantissa hmantissa] at h
    cases h
    obtain ⟨sign, hsign, hs⟩ := exists_sign s
    obtain ⟨mantissa, hwrites, hafter⟩ := writesMantissa_of_takeMantissa hmantissa
    obtain ⟨power, hpower, hrest⟩ := writesExponent_takeExponent after
    refine ⟨_, .parts hsign hwrites hpower, ?_⟩
    rw [List.append_assoc, List.append_assoc, ← hrest, ← hafter, ← hs]

theorem takeMantissa_marked {mark : Char} {whole fraction mantissa : List Char}
    (h : WritesMantissa whole fraction mantissa) (hmark : mark = 'e' ∨ mark = 'E') (s : List Char) :
    takeMantissa (mantissa ++ mark :: s) = some ((whole, fraction), mark :: s) := by
  refine takeMantissa_append_of_head h fun c hc => ?_
  obtain rfl := Option.some.inj hc
  obtain rfl | rfl := hmark <;> decide

/-- No literal goes beyond the one that is taken. -/
theorem takeLiteral_append {l : Literal} {p : List Char} (h : l.Writes p) (s : List Char) :
    ∃ l' rest, takeLiteral (p ++ s) = some (l', rest) ∧ rest <:+ s := by
  obtain ⟨hsign, hmantissa, hpower⟩ := h
  rename_i negative sign whole fraction mantissa power exponent
  have hsigned := takeSign_append hsign (head_of_writesMantissa hmantissa (power ++ s))
  rw [List.append_assoc, List.append_assoc]
  cases hpower with
  | absent =>
    rw [List.nil_append] at hsigned ⊢
    obtain ⟨⟨whole', fraction'⟩, after, htake, hafter⟩ := takeMantissa_append hmantissa s
    obtain ⟨power, -, hrest⟩ := writesExponent_takeExponent after
    refine ⟨_, _, takeLiteral_of_takeMantissa (by rw [hsigned, htake]), ?_⟩
    exact List.IsSuffix.trans ⟨power, hrest.symm⟩ hafter
  | marked hmark hpowerSign nonempty hdigits =>
    have htake := takeMantissa_marked hmantissa hmark
    refine ⟨_, _, takeLiteral_of_takeMantissa (by rw [hsigned, List.cons_append, htake]), ?_⟩
    rw [List.append_assoc, takeExponent_marked hmark hpowerSign nonempty hdigits]
    exact takeAllDigits_suffix s

theorem takeLiteral_of_writes {l : Literal} {s : List Char} (h : l.Writes s) : takeLiteral s = some (l, []) := by
  obtain ⟨hsign, hmantissa, hpower⟩ := h
  rename_i negative sign whole fraction mantissa power exponent
  have hsigned := takeSign_append hsign (head_of_writesMantissa hmantissa power)
  have htake : takeMantissa (mantissa ++ power) = some ((whole, fraction), power) := by
    cases hpower with
    | absent => exact takeMantissa_append_of_head hmantissa nofun
    | marked hmark => exact takeMantissa_marked hmantissa hmark _
  rw [takeLiteral_of_takeMantissa (by rw [hsigned, htake]), hsigned, takeExponent_of_writes hpower]

end BlockRules.Number
