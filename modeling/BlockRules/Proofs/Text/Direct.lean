import BlockRules.Number.Shortest
import BlockRules.Proofs.Number.Digits
import BlockRules.Text.Hex
import BlockRules.Text.Lines
import BlockRules.Text.Utf8
import BlockRules.Value.Written

set_option autoImplicit false

namespace BlockRules
open Text

namespace Text

def IsDirect (c : Char) : Prop := c = '\n' ∨ ' ' ≤ c ∧ c ≤ '~'

instance (c : Char) : Decidable (IsDirect c) := inferInstanceAs (Decidable (_ ∨ _))

def AllDirect (s : List Char) : Prop := ∀ c ∈ s, IsDirect c

instance (s : List Char) : Decidable (AllDirect s) := List.decidableBAll IsDirect s

theorem allDirect_nil : AllDirect [] := fun _ h => absurd h List.not_mem_nil

theorem allDirect_cons {c : Char} {s : List Char} : AllDirect (c :: s) ↔ IsDirect c ∧ AllDirect s :=
  List.forall_mem_cons

theorem allDirect_append {s t : List Char} : AllDirect (s ++ t) ↔ AllDirect s ∧ AllDirect t :=
  List.forall_mem_append

theorem allDirect_replicate {c : Char} (h : IsDirect c) (n : Nat) : AllDirect (List.replicate n c) := by
  intro d hd
  rw [List.eq_of_mem_replicate hd]
  exact h

theorem AllDirect.of_subset {s t : List Char} (h : AllDirect t) (hst : s ⊆ t) : AllDirect s := fun c hc => h c (hst hc)

theorem AllDirect.ite {p : Prop} [Decidable p] {s t : List Char} (hs : AllDirect s) (ht : AllDirect t) :
    AllDirect (if p then s else t) := by
  split
  · exact hs
  · exact ht

theorem allDirect_joinWith {separator : List Char} (h : AllDirect separator) {parts : List (List Char)}
    (hparts : ∀ s ∈ parts, AllDirect s) : AllDirect (joinWith separator parts) := by
  induction parts with
  | nil => exact allDirect_nil
  | cons s rest ih =>
    obtain ⟨hs, hrest⟩ := List.forall_mem_cons.1 hparts
    cases rest with
    | nil => exact hs
    | cons t rest => exact allDirect_append.2 ⟨allDirect_append.2 ⟨hs, h⟩, ih hrest⟩

theorem isDirect_of_isDigit {c : Char} (h : c.isDigit = true) : IsDirect c := by
  obtain ⟨hlow, hhigh⟩ := Moment.isDigit_iff.1 h
  exact .inr ⟨Char.le_trans (by decide) hlow, Char.le_trans hhigh (by decide)⟩

/-- The bytes of a text, each of which is a character. -/
def bytes (s : List Char) : List UInt8 := s.map fun c => UInt8.ofNat c.toNat

theorem IsDirect.toNat_lt {c : Char} (h : IsDirect c) : c.toNat < 0x80 := by
  obtain rfl | ⟨-, hhigh⟩ := h
  · decide
  · have hle : c.toNat ≤ '~'.toNat := Char.le_def.1 hhigh
    exact Nat.lt_of_le_of_lt hle (by decide)

theorem IsDirect.ne_return {c : Char} (h : IsDirect c) : c ≠ '\r' := by
  rintro rfl
  revert h
  decide

theorem decodeUtf8_cons {b : UInt8} (h : b.toNat < 0x80) (rest : List UInt8) :
    decodeUtf8 (b :: rest) = (decodeUtf8 rest).map (Char.ofNat b.toNat :: ·) := by
  rw [decodeUtf8.eq_def (b :: rest)]
  dsimp only
  rw [if_pos h]

theorem decodeUtf8_bytes {s : List Char} (h : AllDirect s) : decodeUtf8 (bytes s) = some s := by
  induction s with
  | nil => rfl
  | cons c s ih =>
    obtain ⟨hc, hs⟩ := allDirect_cons.1 h
    have hsmall := hc.toNat_lt
    have hbyte : (UInt8.ofNat c.toNat).toNat = c.toNat := by
      rw [UInt8.toNat_ofNat']
      omega
    change decodeUtf8 (UInt8.ofNat c.toNat :: bytes s) = _
    rw [decodeUtf8_cons (hbyte.symm ▸ hsmall), ih hs, Option.map_some, hbyte, Char.ofNat_toNat]

theorem withLineFeeds_of_allDirect {s : List Char} (h : AllDirect s) : withLineFeeds s = s := by
  fun_induction withLineFeeds s with
  | case1 rest ih => exact absurd rfl (allDirect_cons.1 h).1.ne_return
  | case2 rest _ ih => exact absurd rfl (allDirect_cons.1 h).1.ne_return
  | case3 c rest _ _ ih => rw [ih (allDirect_cons.1 h).2]
  | case4 => rfl

theorem allDirect_repr (n : Nat) : AllDirect n.repr.toList := fun _ h => isDirect_of_isDigit (isDigit_of_mem_repr h)

theorem exists_digitChar_of_mem_toDigits {base n : Nat} (hbase : 1 < base) {c : Char} (h : c ∈ Nat.toDigits base n) :
    ∃ d, c = Nat.digitChar d := by
  induction n using Nat.strongRecOn with
  | ind n ih =>
    rw [Nat.toDigits_eq_if hbase] at h
    split at h
    · exact ⟨n, List.mem_singleton.1 h⟩
    · obtain h | h := List.mem_append.1 h
      · exact ih (n / base) (Nat.div_lt_self (by omega) hbase) h
      · exact ⟨n % base, List.mem_singleton.1 h⟩

theorem isDirect_digitChar (d : Nat) : IsDirect d.digitChar ∧ IsDirect d.digitChar.toUpper := by
  by_cases h : d < 16
  · have hdigits : ∀ d : Fin 16, IsDirect (Nat.digitChar d) ∧ IsDirect (Nat.digitChar d).toUpper := by decide
    exact hdigits ⟨d, h⟩
  · rw [Nat.digitChar_eq_star.2 (by omega)]
    decide

theorem allDirect_lowerHex (width n : Nat) : AllDirect (lowerHex width n) := by
  refine allDirect_append.2 ⟨allDirect_replicate (by decide) _, fun c hc => ?_⟩
  obtain ⟨d, rfl⟩ := exists_digitChar_of_mem_toDigits (by decide) hc
  exact (isDirect_digitChar d).1

theorem allDirect_upperHex (width n : Nat) : AllDirect (upperHex width n) := by
  intro c hc
  obtain ⟨e, he, rfl⟩ := List.mem_map.1 hc
  obtain hzero | hdigit := List.mem_append.1 he
  · rw [List.eq_of_mem_replicate hzero]
    decide
  · obtain ⟨d, rfl⟩ := exists_digitChar_of_mem_toDigits (by decide) hdigit
    exact (isDirect_digitChar d).2

end Text

theorem allDirect_writtenInt (n : Int) : AllDirect (writtenInt n) := by
  cases n with
  | ofNat m => exact allDirect_repr m
  | negSucc m =>
    have hwritten : writtenInt (.negSucc m) = '-' :: (m + 1).repr.toList := by
      simp [writtenInt, Int.repr]
    rw [hwritten]
    exact allDirect_cons.2 ⟨by decide, allDirect_repr (m + 1)⟩

theorem DecimalDigits.allDirect_positional {d : DecimalDigits} (h : AllDirect d.digits) : AllDirect d.positional := by
  have hzeros : ∀ n, AllDirect (List.replicate n '0') := allDirect_replicate (by decide)
  have hzero : AllDirect ['0'] := by decide
  unfold positional
  split
  · rename_i n _
    have hwhole : AllDirect (d.digits.take n ++ List.replicate (n - d.digits.length) '0') :=
      allDirect_append.2 ⟨h.of_subset (List.take_subset n d.digits), hzeros _⟩
    have hplaces : AllDirect (d.digits.drop n) := h.of_subset (List.drop_subset n d.digits)
    exact allDirect_append.2 ⟨hzero.ite hwhole, allDirect_cons.2 ⟨by decide, hzero.ite hplaces⟩⟩
  · rename_i n _
    have hplaces : AllDirect (List.replicate (n + 1) '0' ++ d.digits) := allDirect_append.2 ⟨hzeros _, h⟩
    exact allDirect_cons.2 ⟨by decide, allDirect_cons.2 ⟨by decide, hplaces⟩⟩

theorem DecimalDigits.allDirect_scientific {d : DecimalDigits} (h : AllDirect d.digits) : AllDirect d.scientific := by
  have hplaces : AllDirect (d.digits.drop 1) := h.of_subset (List.drop_subset 1 d.digits)
  have hpoint : AllDirect ('.' :: d.digits.drop 1) := allDirect_cons.2 ⟨by decide, hplaces⟩
  have hpower := allDirect_repr (d.point - 1).natAbs
  have hpadded := allDirect_append.2
    ⟨allDirect_replicate (by decide : IsDirect '0') (2 - (d.point - 1).natAbs.repr.toList.length), hpower⟩
  have hsign : IsDirect (if d.point - 1 < 0 then '-' else '+') := by split <;> decide
  refine allDirect_append.2 ⟨allDirect_append.2 ⟨h.of_subset (List.take_subset 1 d.digits), ?_⟩, ?_⟩
  · exact allDirect_nil.ite hpoint
  · exact allDirect_cons.2 ⟨by decide, allDirect_cons.2 ⟨hsign, hpadded⟩⟩

theorem DecimalDigits.allDirect_text {d : DecimalDigits} (h : AllDirect d.digits) : AllDirect d.text :=
  (allDirect_positional h).ite (allDirect_scientific h)

theorem DecimalDigits.allDirect_ofGrid (significand : Nat) (exponent : Int) :
    AllDirect (ofGrid significand exponent).digits := by
  refine (allDirect_repr significand).of_subset fun c hc => ?_
  exact List.mem_reverse.1 ((List.dropWhile_sublist _).subset (List.mem_reverse.1 hc))

theorem Magnitude.allDirect_shortest (m : Magnitude) : AllDirect m.shortest.digits := by
  unfold shortest
  extract_lets top grids
  cases hfound : grids.findSome? fun g => (gridPoint m.steps g).map fun d => DecimalDigits.ofGrid d g with
  | none => exact allDirect_nil
  | some digits =>
    obtain ⟨g, -, hpoint⟩ := List.exists_of_findSome?_eq_some hfound
    obtain ⟨d, -, rfl⟩ := Option.map_eq_some_iff.1 hpoint
    exact DecimalDigits.allDirect_ofGrid d g

theorem Binary64.allDirect_text (x : Binary64) : AllDirect x.text.toList := by
  cases x with
  | finite negative magnitude =>
    have hdigits : AllDirect (if magnitude.steps = 0 then ['0', '.', '0'] else magnitude.shortest.text) :=
      AllDirect.ite (by decide) (DecimalDigits.allDirect_text magnitude.allDirect_shortest)
    rw [Binary64.text, String.toList_ofList]
    exact AllDirect.ite (allDirect_cons.2 ⟨by decide, hdigits⟩) hdigits
  | infinite negative => cases negative <;> decide
  | nan => decide

end BlockRules
