import BlockRules.Number.Shortest
import BlockRules.Proofs.Number.Digits

set_option autoImplicit false

namespace BlockRules

namespace Text
open Number

theorem padded_one (n : Nat) : padded 1 n = n.repr.toList := by
  have hlength : 0 < n.repr.toList.length := by
    rw [Nat.toList_repr]
    exact Nat.length_toDigits_pos
  rw [padded, Nat.sub_eq_zero_of_le hlength, List.replicate_zero, List.nil_append]

theorem padded_succ {width n d : Nat} (hwidth : 0 < width) (hd : d < 10) :
    padded (width + 1) (10 * n + d) = padded width n ++ d.repr.toList := by
  have hlast : d.repr.toList.length = 1 := by
    rw [Nat.toList_repr, Nat.toDigits_of_lt_base hd, List.length_singleton]
  obtain rfl | hn := Nat.eq_zero_or_pos n
  · have hzero : (0 : Nat).repr.toList = ['0'] := by decide
    have hcount : width + 1 - 1 = width - 1 + 1 := by omega
    rw [padded, padded, Nat.mul_zero, Nat.zero_add, hlast, hzero, hcount, List.replicate_succ']
    rfl
  · have hdigits : (10 * n + d).repr.toList = n.repr.toList ++ d.repr.toList := by
      rw [Nat.toList_repr, Nat.toList_repr, Nat.toList_repr]
      exact (Nat.toDigits_append_toDigits (by decide) hn hd).symm
    have hcount : width + 1 - (n.repr.toList ++ d.repr.toList).length = width - n.repr.toList.length := by
      rw [List.length_append, hlast, Nat.add_sub_add_right]
    rw [padded, padded, hdigits, hcount, List.append_assoc]

theorem padded_eq_append (places n : Nat) :
    padded (places + 2) n =
      (n / tenPow (places + 1)).repr.toList ++ padded (places + 1) (n % tenPow (places + 1)) := by
  have hlast : n % 10 < 10 := Nat.mod_lt n (by decide)
  induction places generalizing n with
  | zero =>
    have h := padded_succ (n := n / 10) Nat.one_pos hlast
    rwa [Nat.div_add_mod, padded_one, ← padded_one (n % 10)] at h
  | succ places ih =>
    have hpower : tenPow (places + 2) = 10 * tenPow (places + 1) := Nat.pow_succ'
    have hmod : n % tenPow (places + 2) = 10 * (n / 10 % tenPow (places + 1)) + n % 10 := by
      rw [hpower, Nat.mod_mul, Nat.add_comm]
    calc padded (places + 3) n
        = padded (places + 3) (10 * (n / 10) + n % 10) := by rw [Nat.div_add_mod]
      _ = padded (places + 2) (n / 10) ++ (n % 10).repr.toList := padded_succ (Nat.succ_pos _) hlast
      _ = (n / 10 / tenPow (places + 1)).repr.toList ++
            (padded (places + 1) (n / 10 % tenPow (places + 1)) ++ (n % 10).repr.toList) := by
        rw [ih _ (Nat.mod_lt _ (by decide)), List.append_assoc]
      _ = (n / tenPow (places + 2)).repr.toList ++ padded (places + 2) (n % tenPow (places + 2)) := by
        rw [hmod, padded_succ (Nat.succ_pos _) hlast, hpower, Nat.div_div_eq_div_mul]

end Text

namespace Number
open Text

/-- A number of the last place, written with its point. -/
def placesText (places n : Nat) : List Char :=
  (n / tenPow places).repr.toList ++ '.' :: padded places (n % tenPow places)

theorem digitsValue_placesText (places n : Nat) :
    digitsValue ((n / tenPow (places + 1)).repr.toList ++ padded (places + 1) (n % tenPow (places + 1))) = n := by
  have hlength : (padded (places + 1) (n % tenPow (places + 1))).length = places + 1 :=
    length_padded (Nat.succ_pos _) (Nat.mod_lt _ (tenPow_pos _))
  have hwhole : Nat.ofDigitChars 10 (n / tenPow (places + 1)).repr.toList 0 = n / tenPow (places + 1) := by
    rw [Nat.toList_repr]
    exact Nat.ofDigitChars_ten_toDigits
  rw [digitsValue_eq_ofDigitChars fun c hc => (List.mem_append.1 hc).elim isDigit_of_mem_repr isDigit_of_mem_padded]
  rw [Nat.ofDigitChars_append, hwhole, Nat.ofDigitChars_eq_ofDigitChars_zero, hlength, ofDigitChars_padded]
  exact Nat.div_add_mod n (tenPow (places + 1))

theorem isBlank_of_mem_placesText {places n : Nat} {c : Char} (h : c ∈ placesText places n) : isBlank c = false := by
  obtain hwhole | hpoint := List.mem_append.1 h
  · exact isBlank_of_isDigit (isDigit_of_mem_repr hwhole)
  · obtain rfl | hfraction := List.mem_cons.1 hpoint
    · decide
    · exact isBlank_of_isDigit (isDigit_of_mem_padded hfraction)

theorem strip_placesText (places n : Nat) : strip (placesText places n) = placesText places n :=
  trimBy_eq_self (fun _ hc => isBlank_of_mem_placesText (List.mem_of_head? hc))
    fun _ hc => isBlank_of_mem_placesText (List.mem_of_getLast? hc)

end Number

namespace Binary64
open Number Text

/-- The text with fixed places writes the integer nearest to the number in units of the last place. -/
theorem fixedText_succ (places : Nat) (m : Magnitude) :
    (finite false m).fixedText (places + 1) =
      String.ofList (placesText (places + 1) (roundHalfEven (m.steps * tenPow (places + 1)) one)) := by
  generalize hn : roundHalfEven (m.steps * tenPow (places + 1)) one = n
  have hpadded : List.replicate (places + 1 + 1 - n.repr.toList.length) '0' ++ n.repr.toList =
      (n / tenPow (places + 1)).repr.toList ++ padded (places + 1) (n % tenPow (places + 1)) :=
    padded_eq_append places n
  have hlength : (padded (places + 1) (n % tenPow (places + 1))).length = places + 1 :=
    length_padded (Nat.succ_pos _) (Nat.mod_lt _ (tenPow_pos _))
  simp only [fixedText, hn, hpadded, if_neg (Nat.succ_ne_zero places), Bool.false_eq_true, if_false]
  rw [List.length_append, hlength, Nat.add_sub_cancel, List.take_left, List.drop_left, placesText]

end Binary64

end BlockRules
