import BlockRules.Number.Literal
import BlockRules.Text.Blank
import BlockRules.Value.Written

set_option autoImplicit false

/-!
# Comparing values

Ordering reads a number from the start of each side; equality reads one from the whole of a text that meets a
number. What cannot be read is nan, for which every comparison fails. An integer beyond the range of numbers
cannot be ordered, and one that is too long to be written cannot be searched: these are the only errors.
-/
namespace BlockRules
open Number Text

inductive ComparisonError where
  | integerTooLarge
  | integerTooLong
  deriving DecidableEq

namespace ComparisonError

def message : ComparisonError → String
  | integerTooLarge => "int too large to convert to float"
  | integerTooLong => Number.longMessage

end ComparisonError

/-- What a value is, integers and other numbers being of one kind. -/
inductive Kind where
  | null
  | bool
  | number
  | text
  | bytes
  | date
  | moment
  | list
  | object
  | entry
  | set
  deriving DecidableEq

namespace Scalar

def kind : Scalar → Kind
  | null => .null
  | bool _ => .bool
  | int _ => .number
  | float _ => .number
  | text _ => .text
  | bytes _ => .bytes
  | date _ => .date
  | moment _ => .moment

end Scalar

def takeInfinity (s : List Char) : Option (Binary64 × List Char) :=
  let (negative, s) := takeSign s
  let word := "Infinity".toList
  if word.isPrefixOf s then some (.infinite negative, s.drop word.length) else none

/-- The number at the start of a text, blanks aside; nan when there is none. -/
def leadingNumberOf (s : String) : Binary64 :=
  let s := strip s.toList
  match takeInfinity s with
  | some (x, _) => x
  | none => match takeLiteral s with
    | some (l, _) => l.value
    | none => .nan

/-- The number that a whole text is, blanks aside: zero when nothing is left, nan when it is not a number. -/
def wholeNumberOf (s : String) : Binary64 :=
  let s := strip s.toList
  if s.isEmpty then .finite false .zero
  else match takeInfinity s with
    | some (x, []) => x
    | _ => match literal? s with
      | some l => l.value
      | none => .nan

def numberOfInt (n : Int) : Except ComparisonError Binary64 :=
  match Binary64.ofInt? n with
  | some x => .ok x
  | none => .error .integerTooLarge

def numberOfBool (b : Bool) : Binary64 := .ofDecimal false (if b then 1 else 0) 0

namespace Value

def kind : Value → Kind
  | .scalar s => s.kind
  | .list _ => .list
  | .object _ => .object
  | .entry _ _ => .entry
  | .set _ => .set
  | .again isObject => if isObject then .object else .list

def leadingNumber : Value → Except ComparisonError Binary64
  | .int n => numberOfInt n
  | .float x => .ok x
  | .text s => .ok (leadingNumberOf s)
  | _ => .ok .nan

def wholeNumber : Value → Except ComparisonError Binary64
  | .bool b => .ok (numberOfBool b)
  | .int n => numberOfInt n
  | .float x => .ok x
  | .null => .ok (.finite false .zero)
  | .text s => .ok (wholeNumberOf s)
  | _ => .ok .nan

def equalsNumber (number : Scalar) (v : Value) : Bool :=
  match v with
  | .text s => number.same (.float (wholeNumberOf s))
  | v => same (.scalar number) v

/-- Equality between kinds: null equals null only, and a truth value or a text that meets a number is compared
as one. -/
def looseEquals (left right : Value) : Bool :=
  match left, right with
  | .null, .null => true
  | .null, _ => false
  | _, .null => false
  | .bool a, .bool b => a == b
  | .bool a, other => equalsNumber (.float (numberOfBool a)) other
  | other, .bool b => equalsNumber (.float (numberOfBool b)) other
  | .int n, other => equalsNumber (.int n) other
  | .float x, other => equalsNumber (.float x) other
  | other, .int n => equalsNumber (.int n) other
  | other, .float x => equalsNumber (.float x) other
  | left, right => left.same right

def strictEquals (left right : Value) : Bool := left.kind == right.kind && left.same right

/-- The text in which a value is searched for: truth values in small letters, whole numbers without a point. -/
def searchText : Value → List Char
  | .bool b => if b then "true".toList else "false".toList
  | .float x => if x.isWhole then writtenInt (x.truncate.getD 0) else x.text.toList
  | v => v.shown.toList

def occursIn (part : List Char) : List Char → Bool
  | [] => part.isEmpty
  | c :: s => part.isPrefixOf (c :: s) || occursIn part s

/-- Whether the text of the right value occurs in that of the left; null neither contains nor is contained. -/
def contains (left right : Value) : Bool :=
  match left, right with
  | .null, _ => false
  | _, .null => false
  | left, right => occursIn right.searchText left.searchText

def areSearched (left right : Value) : Bool := !(left matches .null) && !(right matches .null)

def search (left right : Value) : Except ComparisonError Bool :=
  if left.areSearched right && (left.hasLongInteger || right.hasLongInteger) then .error .integerTooLong
  else .ok (left.contains right)

end Value

end BlockRules
