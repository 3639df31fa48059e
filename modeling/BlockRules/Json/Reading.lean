import BlockRules.Json.Token

set_option autoImplicit false

/-!
# Reading JSON

The tokens of a text are taken one after the other. Lists and objects that are open wait on a stack, and the
state says what may follow. Of the fields of an object with the same key the last one counts, at the place of
the first. A text that is well formed but has a string that is no text is refused in the end.
-/
namespace BlockRules.Json

inductive ReadError where
  | malformed (position : Nat)
  | longInt (digits : Nat)
  | tooDeep
  | loneSurrogate
  deriving DecidableEq

/-- A list or object that is not closed yet, with its parts in reverse. -/
inductive Container where
  | list (items : List Value)
  | object (fields : List (Scalar × Value)) (key : String)

inductive Expected where
  | value
  /-- The first item of a list, or its end. -/
  | item
  | firstKey
  | key (fields : List (Scalar × Value))
  | colon
  /-- A comma, or the end of the container. -/
  | delimiter (v : Value)

structure State where
  expected : Expected
  containers : List Container

def closeObject (fields : List (Scalar × Value)) : Value := .ofFields fields.reverse

/-- After a value only a comma or the right end may come. -/
def afterValue (containers : List Container) (v : Value) (t : Token) : Except ReadError State :=
  match containers, t.kind with
  | .list items :: rest, .comma => .ok ⟨.value, .list (v :: items) :: rest⟩
  | .list items :: rest, .closeList => .ok ⟨.delimiter (.list (v :: items).reverse), rest⟩
  | .object fields key :: rest, .comma => .ok ⟨.key ((.text key, v) :: fields), rest⟩
  | .object fields key :: rest, .closeObject =>
    .ok ⟨.delimiter (closeObject ((.text key, v) :: fields)), rest⟩
  | _, _ => .error (.malformed t.position)

def depthLimit : Nat := 985

def opened (containers : List Container) (s : State) : Except ReadError State :=
  if containers.length < depthLimit then .ok s else .error .tooDeep

def atValue (containers : List Container) (t : Token) : Except ReadError State :=
  match t.kind with
  | .openList => opened containers ⟨.item, .list [] :: containers⟩
  | .openObject => opened containers ⟨.firstKey, containers⟩
  | .string s => .ok ⟨.delimiter (.text s), containers⟩
  | .brokenString => .ok ⟨.delimiter .null, containers⟩
  | .scalar s => .ok ⟨.delimiter (.scalar s), containers⟩
  | .longInt digits => .error (.longInt digits)
  | .invalid position => .error (.malformed position)
  | _ => .error (.malformed t.position)

def atKey (fields : List (Scalar × Value)) (containers : List Container) (t : Token) : Except ReadError State :=
  match t.kind with
  | .string s => .ok ⟨.colon, .object fields s :: containers⟩
  | .brokenString => .ok ⟨.colon, .object fields "" :: containers⟩
  | .invalid position => .error (.malformed position)
  | _ => .error (.malformed t.position)

def step (s : State) (t : Token) : Except ReadError State :=
  match s.expected with
  | .value => atValue s.containers t
  | .item => match t.kind with
    | .closeList => .ok ⟨.delimiter (.list []), s.containers.drop 1⟩
    | _ => atValue s.containers t
  | .firstKey => match t.kind with
    | .closeObject => .ok ⟨.delimiter (closeObject []), s.containers⟩
    | _ => atKey [] s.containers t
  | .key fields => atKey fields s.containers t
  | .colon => match t.kind with
    | .colon => .ok ⟨.value, s.containers⟩
    | _ => .error (.malformed t.position)
  | .delimiter v => afterValue s.containers v t

def read (s : List Char) : Except ReadError Value := do
  let final ← (tokens 0 s).foldlM step ⟨.value, []⟩
  match final.expected, final.containers with
  | .delimiter v, [] =>
    if (tokens 0 s).any (·.kind matches .brokenString) then throw .loneSurrogate else return v
  | _, _ => throw (.malformed s.length)

/-- The value that the text of a file writes, which may not begin with a mark of byte order. -/
def readFile (s : List Char) : Except ReadError Value :=
  if s.head? = some '\uFEFF' then .error (.malformed 0) else read s

end BlockRules.Json
