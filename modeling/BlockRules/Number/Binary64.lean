import BlockRules.Number.Power
import BlockRules.Number.Rounding

set_option autoImplicit false

/-!
# Numbers of double precision

A finite number is a sign and a whole number of steps, a step being the least positive number `2⁻¹⁰⁷⁴`.
Every finite number is such a multiple, so that comparison is comparison of integers and a rounded result is
one integer quotient. `Magnitude.nearest` is the only way from an exact quotient to a number.
-/
namespace BlockRules
open Number

namespace Binary64

def stepExponent : Nat := 1074

def topExponent : Nat := 1024

def one : Nat := twoPow stepExponent

def limit : Nat := twoPow (topExponent + stepExponent)

theorem one_pos : 0 < one := twoPow_pos stepExponent

theorem limit_pos : 0 < limit := twoPow_pos (topExponent + stepExponent)

def spacing (steps : Nat) : Nat := twoPow (steps.log2 - 52)

theorem spacing_pos (steps : Nat) : 0 < spacing steps := twoPow_pos _

end Binary64

/-- The absolute value of a finite number: at most 53 significant bits, and below the limit. -/
structure Magnitude where
  steps : Nat
  spaced : Binary64.spacing steps ∣ steps
  bounded : steps < Binary64.limit
  deriving DecidableEq

namespace Magnitude
open Binary64 Number

@[ext] theorem ext {a b : Magnitude} (h : a.steps = b.steps) : a = b := by
  cases a
  cases b
  cases h
  rfl

def zero : Magnitude := ⟨0, Nat.dvd_zero _, limit_pos⟩

/-- The steps of the magnitude nearest to `p / q` steps, with no upper limit. -/
def nearestSteps (p q : Nat) : Nat :=
  roundHalfEven p (q * spacing (p / q)) * spacing (p / q)

theorem div_spacing_lt (n : Nat) : n / spacing n < twoPow 53 := by
  rw [Nat.div_lt_iff_lt_mul (spacing_pos n)]
  unfold spacing
  rw [← twoPow_add]
  exact Nat.lt_of_lt_of_le (lt_twoPow_log2_succ n) (twoPow_le (by omega))

theorem spacing_dvd_mul {r k : Nat} (hr : r ≤ twoPow 53) : spacing (r * twoPow k) ∣ r * twoPow k := by
  unfold spacing
  by_cases h0 : r = 0
  · subst h0
    simp
  by_cases hr' : r = twoPow 53
  · subst hr'
    rw [← twoPow_add, log2_twoPow]
    exact twoPow_dvd (by omega)
  · have hlt : r * twoPow k < twoPow (53 + k) := by
      rw [twoPow_add]
      exact Nat.mul_lt_mul_of_pos_right (by omega) (twoPow_pos k)
    have hne : r * twoPow k ≠ 0 := Nat.mul_ne_zero h0 (Nat.ne_of_gt (twoPow_pos k))
    have hlog := (log2_lt_iff hne).2 hlt
    exact Nat.dvd_trans (twoPow_dvd (by omega)) (Nat.dvd_mul_left _ _)

theorem spacing_dvd_nearestSteps (p q : Nat) :
    spacing (nearestSteps p q) ∣ nearestSteps p q := by
  have hle := roundHalfEven_le p (q * spacing (p / q))
  rw [← Nat.div_div_eq_div_mul] at hle
  have hlt := div_spacing_lt (p / q)
  unfold nearestSteps
  generalize roundHalfEven p (q * spacing (p / q)) = r at hle
  exact spacing_dvd_mul (by omega)

def nearest (p q : Nat) : Option Magnitude :=
  if h : nearestSteps p q < limit then some ⟨nearestSteps p q, spacing_dvd_nearestSteps p q, h⟩ else none

theorem nearest_eq_some {p q : Nat} {m : Magnitude} (h : nearest p q = some m) :
    m.steps = nearestSteps p q := by
  unfold nearest at h
  split at h
  · cases h
    rfl
  · cases h

theorem nearest_steps (m : Magnitude) : nearest m.steps 1 = some m := by
  have h : nearestSteps m.steps 1 = m.steps := by
    obtain ⟨k, hk⟩ := m.spaced
    unfold nearestSteps
    rw [Nat.div_one, Nat.one_mul]
    have : m.steps = k * spacing m.steps := by rw [Nat.mul_comm]; exact hk
    calc roundHalfEven m.steps (spacing m.steps) * spacing m.steps
        = roundHalfEven (k * spacing m.steps) (spacing m.steps) * spacing m.steps := by rw [← this]
      _ = m.steps := by rw [roundHalfEven_mul _ _ (spacing_pos _), ← this]
  unfold nearest
  simp only [h, m.bounded, ↓reduceDIte]

end Magnitude

/-- A number of double precision. Zero has two signs; there is one nan. -/
inductive Binary64 where
  | finite (negative : Bool) (magnitude : Magnitude)
  | infinite (negative : Bool)
  | nan
  deriving DecidableEq

namespace Binary64

instance : Inhabited Binary64 := ⟨.finite false .zero⟩

def signed (negative : Bool) (steps : Nat) : Int := if negative then -(steps : Int) else steps

/-- Where a number stands on the line, in steps. The infinite ones stand at the limit, beyond every finite
number; nan stands nowhere. -/
def position : Binary64 → Option Int
  | finite negative magnitude => some (signed negative magnitude.steps)
  | infinite negative => some (signed negative limit)
  | nan => none

def compare (test : Int → Int → Bool) (x y : Binary64) : Bool :=
  match x.position, y.position with
  | some a, some b => test a b
  | _, _ => false

def less (x y : Binary64) : Bool := x.compare (fun a b => decide (a < b)) y

def atMost (x y : Binary64) : Bool := x.compare (fun a b => decide (a ≤ b)) y

def same (x y : Binary64) : Bool := x.compare (fun a b => decide (a = b)) y

/-- Whether a finite number equals an integer, with no rounding of the integer. -/
def sameInt (x : Binary64) (n : Int) : Bool :=
  match x with
  | finite negative magnitude => decide (signed negative magnitude.steps = n * one)
  | _ => false

def ofQuotient (negative : Bool) (p q : Nat) : Binary64 :=
  match Magnitude.nearest (p * one) q with
  | some magnitude => finite negative magnitude
  | none => infinite negative

def ofInt? (n : Int) : Option Binary64 :=
  (Magnitude.nearest (n.natAbs * one) 1).map (finite (decide (n < 0)))

/-- The number nearest to `± digits × 10 ^ exponent`. Exponents that put the result beyond either end of the
range are decided without the power of ten. -/
def ofDecimal (negative : Bool) (digits : Nat) (exponent : Int) : Binary64 :=
  if digits = 0 then
    finite negative .zero
  else match exponent with
    | .ofNat e => if 400 < e then infinite negative else ofQuotient negative (digits * tenPow e) 1
    | .negSucc e =>
      if digits.log2 + 1200 < 3 * e then finite negative .zero
      else ofQuotient negative digits (tenPow (e + 1))

def truncate : Binary64 → Option Int
  | finite negative magnitude => some (signed negative (magnitude.steps / one))
  | _ => none

def isWhole : Binary64 → Bool
  | finite _ magnitude => decide (one ∣ magnitude.steps)
  | _ => false

def isFinite : Binary64 → Bool
  | finite _ _ => true
  | _ => false

def isNan : Binary64 → Bool
  | nan => true
  | _ => false

end Binary64

end BlockRules
