set_option autoImplicit false

namespace BlockRules.Text

def isWhiteSpace (c : Char) : Bool :=
  let n := c.toNat
  (0x9 ≤ n && n ≤ 0xD) || n == 0x20 || n == 0x85 || n == 0xA0 || n == 0x1680 || (0x2000 ≤ n && n ≤ 0x200A) ||
    n == 0x2028 || n == 0x2029 || n == 0x202F || n == 0x205F || n == 0x3000

/-- White space, or one of the separators of files, groups, records and units. -/
def isBlank (c : Char) : Bool := isWhiteSpace c || (0x1C ≤ c.toNat && c.toNat ≤ 0x1F)

def trimBy (test : Char → Bool) (s : List Char) : List Char :=
  ((s.dropWhile test).reverse.dropWhile test).reverse

def strip (s : List Char) : List Char := trimBy isBlank s

theorem trimBy_eq_self {test : Char → Bool} {s : List Char}
    (hfirst : ∀ c ∈ s.head?, test c = false) (hlast : ∀ c ∈ s.getLast?, test c = false) :
    trimBy test s = s := by
  have hf : s.dropWhile test = s := by
    cases s with
    | nil => rfl
    | cons c r => simp [List.dropWhile, hfirst c (by simp)]
  have hl : s.reverse.dropWhile test = s.reverse := by
    cases hr : s.reverse with
    | nil => rfl
    | cons c r =>
      have : s.getLast? = some c := by rw [List.getLast?_eq_head?_reverse, hr]; rfl
      simp [List.dropWhile, hlast c (by simp [this])]
  simp [trimBy, hf, hl]

end BlockRules.Text
