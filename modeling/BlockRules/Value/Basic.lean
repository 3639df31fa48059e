import BlockRules.Calendar.Basic
import BlockRules.Number.Binary64

set_option autoImplicit false

/-!
# Values

What an input, the right side of a condition or a stored document may hold. Objects keep their fields in order.
Values are the same when they mean the same: an integer and a number of equal value are, a truth value counts
as zero or one, and the order of an object's fields does not matter. Nan is the same as nothing, also inside a list:
values are told apart by what they are, and it is not known which of them are one object. A list or an object that is
inside itself has no end: where it comes again, only that is said, and it is the same as nothing else.
-/
namespace BlockRules

/-- A value without parts. Keys of objects are scalars. -/
inductive Scalar where
  | null
  | bool (b : Bool)
  | int (n : Int)
  | float (x : Binary64)
  | text (s : String)
  | bytes (data : List UInt8)
  | date (d : Date)
  | moment (m : Moment)
  deriving DecidableEq

inductive Value where
  | scalar (s : Scalar)
  | list (items : List Value)
  | object (fields : List (Scalar × Value))
  | entry (key content : Value)
  | set (members : List Scalar)
  /-- One of the lists or objects around this place, once more. -/
  | again ( isObject : Bool)

instance : Inhabited Value := ⟨.scalar .null⟩

namespace Value

@[match_pattern] abbrev null : Value := .scalar .null
@[match_pattern] abbrev bool (b : Bool) : Value := .scalar (.bool b)
@[match_pattern] abbrev int (n : Int) : Value := .scalar (.int n)
@[match_pattern] abbrev float (x : Binary64) : Value := .scalar (.float x)
@[match_pattern] abbrev text (s : String) : Value := .scalar (.text s)

end Value

namespace Scalar

def integer? : Scalar → Option Int
  | int n => some n
  | bool b => some (if b then 1 else 0)
  | _ => none

/-- Sameness of numbers, a truth value being one; an integer is never rounded for it. -/
def sameNumber (a b : Scalar) : Bool :=
  match a, b with
  | float x, float y => x.same y
  | float x, b => match b.integer? with
    | some n => x.sameInt n
    | none => false
  | a, float y => match a.integer? with
    | some n => y.sameInt n
    | none => false
  | a, b => match a.integer?, b.integer? with
    | some m, some n => m == n
    | _, _ => false

def same (a b : Scalar) : Bool :=
  match a, b with
  | null, null => true
  | text s, text t => s == t
  | bytes s, bytes t => s == t
  | date d, date e => d == e
  | moment m, moment n => m.same n
  | a, b => a.sameNumber b

end Scalar

namespace Value

def field? (fields : List (Scalar × Value)) (key : Scalar) : Option Value :=
  (fields.find? fun f => f.1.same key).map (·.2)

def get? (fields : List (Scalar × Value)) (name : String) : Option Value := field? fields (.text name)

/-- Fields with one of them set: a key that is there keeps its place, a new one comes last. -/
def put (fields : List (Scalar × Value)) (key : Scalar) (content : Value) : List (Scalar × Value) :=
  match fields with
  | [] => [(key, content)]
  | f :: rest => if f.1.same key then (f.1, content) :: rest else f :: put rest key content

/-- An object from fields given in order, later ones replacing earlier ones of the same key. -/
def ofFields (fields : List (Scalar × Value)) : Value :=
  .object (fields.foldl (fun acc f => put acc f.1 f.2) [])

mutual

def same : Value → Value → Bool
  | .scalar a, .scalar b => a.same b
  | .list xs, .list ys => sameItems xs ys
  | .object xs, .object ys => xs.length == ys.length && sameFields xs ys
  | .entry a b, .entry c d => a.same c && b.same d
  | .set xs, .set ys => xs.length == ys.length && xs.all fun x => ys.any fun y => x.same y
  | _, _ => false

def sameItems : List Value → List Value → Bool
  | [], [] => true
  | x :: xs, y :: ys => x.same y && sameItems xs ys
  | _, _ => false

def sameFields : List (Scalar × Value) → List (Scalar × Value) → Bool
  | [], _ => true
  | (key, content) :: rest, ys =>
    (match field? ys key with
      | some other => content.same other
      | none => false) && sameFields rest ys

end

def isBlank : Value → Bool
  | .scalar .null => true
  | .scalar (.bool b) => !b
  | .scalar (.int n) => n == 0
  | .scalar (.float x) => x.sameInt 0
  | .scalar (.text s) => s == ""
  | .scalar (.bytes data) => data.isEmpty
  | .scalar (.date _) => false
  | .scalar (.moment _) => false
  | .list items => items.isEmpty
  | .object fields => fields.isEmpty
  | .entry _ _ => false
  | .set members => members.isEmpty
  | .again _ => false

end Value

end BlockRules
