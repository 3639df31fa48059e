import BlockRules.Calendar.Reading
import BlockRules.Number.Literal
import BlockRules.Schema.Checked
import BlockRules.Text.Blank
import BlockRules.Text.Utf8

set_option autoImplicit false

/-!
# Fields

Reading the fields of a record from an object. Plain types are read leniently: numbers and truth values may be
written as text, and a truth value may be a number. A field has two names, and the one that documents use goes
before the other.
-/
namespace BlockRules

/-- How records are read. Inside a request, a value that is no object is reported under another kind. -/
structure ReadMode where
  notRecord : ProblemKind

namespace ReadMode

def document : ReadMode := ⟨.recordType⟩

def request : ReadMode := ⟨.recordOrObjectType⟩

end ReadMode

namespace Number

def namedNumber? (s : List Char) : Option Binary64 :=
  let (negative, s) := takeSign s
  let word := String.ofList (s.map Char.toLower)
  if word = "inf" ∨ word = "infinity" then some (.infinite negative)
  else if word = "nan" then some .nan
  else none

def plainNumber? (s : List Char) : Option Binary64 :=
  match namedNumber? s with
  | some x => some x
  | none => if s.all fun c => c.toNat < 0x80 then (literal? s).map Literal.value else none

def withoutUnderscores? (s : List Char) : Option (List Char) :=
  let doubled := (s.zip (s.drop 1)).any fun (a, b) => a == '_' && b == '_'
  if s.head? = some '_' ∨ s.getLast? = some '_' ∨ doubled then none else some (s.filter (· != '_'))

end Number

namespace Checked

def text : Value → Checked String
  | .text s => .ok s
  | .scalar (.bytes data) => match Text.decodeUtf8 data with
    | some s => .ok (String.ofList s)
    | none => fail .textEncoding
  | _ => fail .textType

/-- A number in text, white space around it aside. Digits may be grouped by underscores, but then nothing may
stand around them. -/
def numberText (s : List Char) : Checked Binary64 :=
  match Number.plainNumber? (Text.trimBy Text.isWhiteSpace s) with
  | some x => .ok x
  | none => match (Number.withoutUnderscores? s).bind Number.plainNumber? with
    | some x => .ok x
    | none => fail .numberParsing

def number : Value → Checked Binary64
  | .float x => .ok x
  | .bool b => .ok (.ofDecimal false (if b then 1 else 0) 0)
  | .int n => match Binary64.ofInt? n with
    | some x => .ok x
    | none => fail .numberType
  | .text s => numberText s.toList
  | .scalar (.bytes data) => match Text.decodeUtf8 data with
    | some s => numberText s
    | none => fail .numberParsing
  | _ => fail .numberType

def boolWords : List (String × Bool) :=
  [("0", false), ("off", false), ("f", false), ("false", false), ("n", false), ("no", false),
    ("1", true), ("on", true), ("t", true), ("true", true), ("y", true), ("yes", true)]

def boolText (s : List Char) : Checked Bool :=
  match boolWords.lookup (String.ofList (s.map Char.toLower)) with
  | some b => .ok b
  | none => fail .boolParsing

def isWord (n : Int) : Bool := -(Number.twoPow 63 : Int) ≤ n && n < Number.twoPow 63

/-- Zero and one are truth values; other words are no way to write one, and larger integers are of another type. -/
def boolInt (n : Int) : Checked Bool :=
  if n = 0 then .ok false else if n = 1 then .ok true
  else if isWord n then fail .boolParsing else fail .boolType

/-- A whole number is read as an integer. Here the least word counts as too large. -/
def boolFloat (x : Binary64) : Checked Bool :=
  match x.truncate with
  | some n => if x.isWhole && n != -(Number.twoPow 63 : Int) then boolInt n else fail .boolType
  | none => fail .boolType

def bool : Value → Checked Bool
  | .bool b => .ok b
  | .int n => boolInt n
  | .float x => boolFloat x
  | .text s => boolText s.toList
  | .scalar (.bytes data) => match Text.decodeUtf8 data with
    | some s => boolText s
    | none => fail .boolParsing
  | _ => fail .boolType

def momentResult : Except Moment.ReadError Moment → Checked Moment
  | .ok m => .ok m
  | .error .notWritten => fail .momentFromDateParsing
  | .error .outOfRange => fail .momentParsing

/-- A moment, a date at midnight, the text of one, or a timestamp. -/
def moment : Value → Checked Moment
  | .scalar (.moment m) => .ok m
  | .scalar (.date d) => .ok ⟨d, .midnight, none⟩
  | .text s => momentResult (Moment.ofText s.toList)
  | .scalar (.bytes data) => match Text.decodeUtf8 data with
    | some s => momentResult (Moment.ofText s)
    | none => fail .momentFromDateParsing
  | .int n => if (Binary64.ofInt? n).isSome then momentResult (Moment.ofInt n) else fail .momentType
  | .float x => momentResult (Moment.ofFloat x)
  | _ => fail .momentType

def nullable {α : Type} (read : Value → Checked α) : Value → Checked (Option α)
  | .null => .ok none
  | v => (read v).map some

def items {α : Type} (read : Value → Checked α) (vs : List Value) : Checked (List α) :=
  all (vs.zipIdx.map fun (v, i) => at_ (.index i) (read v))

def list {α : Type} (read : Value → Checked α) : Value → Checked (List α)
  | .list vs => items read vs
  | .set members => items read (members.map .scalar)
  | _ => fail .listType

def record (mode : ReadMode) : Value → Checked (List (Scalar × Value))
  | .object fields => .ok fields
  | _ => fail mode.notRecord

end Checked

/-- The two names of a field: that of documents, and another that is read too. -/
structure FieldName where
  main : String
  other : String

namespace FieldName

def find? (f : FieldName) (fields : List (Scalar × Value)) : Option (String × Value) :=
  match Value.get? fields f.main with
  | some v => some (f.main, v)
  | none => (Value.get? fields f.other).map fun v => (f.other, v)

def required {α : Type} (f : FieldName) (read : Value → Checked α) (fields : List (Scalar × Value)) :
    Checked α :=
  match f.find? fields with
  | some (name, v) => Checked.at_ (.field name) (read v)
  | none => Checked.at_ (.field f.main) (Checked.fail .missing)

def optional {α : Type} (f : FieldName) (absent : α) (read : Value → Checked α)
    (fields : List (Scalar × Value)) : Checked α :=
  match f.find? fields with
  | some (name, v) => Checked.at_ (.field name) (read v)
  | none => .ok absent

def single (name : String) : FieldName := ⟨name, name⟩

end FieldName

end BlockRules
