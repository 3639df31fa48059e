import BlockRules.Yaml.Timestamp

set_option autoImplicit false

namespace BlockRules.Yaml

inductive Tag where
  | null
  | bool
  | int
  | float
  | timestamp
  | merge
  | default
  | text
  | binary
  | list
  | orderedEntries
  | entries
  | set
  | object
  | other
  deriving DecidableEq

namespace Tag

def namespaceText : String := "tag:yaml.org,2002:"

def names : List (String × Tag) :=
  [("null", null), ("bool", bool), ("int", int), ("float", float), ("timestamp", timestamp), ("merge", merge),
    ("value", default), ("str", text), ("binary", binary), ("seq", list), ("omap", orderedEntries),
    ("pairs", entries), ("set", set), ("map", object)]

def ofName (name : List Char) : Tag :=
  ((names.find? fun n => (namespaceText ++ n.1).toList = name).map (·.2)).getD other

def boolWords : List (String × Bool) :=
  [("yes", true), ("no", false), ("true", true), ("false", false), ("on", true), ("off", false)]

def casings (word : String) : List (List Char) :=
  let s := word.toList
  [s, (s.take 1).map Char.toUpper ++ s.drop 1, s.map Char.toUpper]

def isBool (s : List Char) : Bool := boolWords.any fun w => (casings w.1).contains s

def isNull (s : List Char) : Bool := s.isEmpty || s == ['~'] || (casings "null").contains s

def isDigit (c : Char) : Bool := '0' ≤ c && c ≤ '9'

def isDigitOrBar (c : Char) : Bool := isDigit c || c == '_'

def unsigned : List Char → List Char
  | '+' :: s => s
  | '-' :: s => s
  | s => s

def takeDigits (zero : Bool) : List Char → Option (List Char)
  | c :: s => if isDigit c && (zero || c != '0') then some (s.dropWhile isDigitOrBar) else none
  | [] => none

/-- Numbers below sixty after a colon each, at least one of them, and the rest. -/
def takeSixtieths : Nat → List Char → Option (List Char)
  | 0, _ => none
  | fuel + 1, s => match s with
    | ':' :: rest =>
      let digits := rest.takeWhile isDigit
      if digits.length = 1 ∨ (digits.length = 2 ∧ digits.head?.any fun c => c ≤ '5') then
        let after := rest.drop digits.length
        if after.head? = some ':' then takeSixtieths fuel after else some after
      else none
    | _ => none

def isExponent : List Char → Bool
  | [] => true
  | e :: sign :: digits =>
    (e == 'e' || e == 'E') && (sign == '+' || sign == '-') && !digits.isEmpty && digits.all isDigit
  | _ => false

def allOf (test : Char → Bool) (s : List Char) : Bool := !s.isEmpty && s.all test

def isInt (s : List Char) : Bool :=
  let s := unsigned s
  let decimal := match takeDigits false s with
    | some [] => true
    | some rest => takeSixtieths rest.length rest == some []
    | none => false
  let based := match s with
    | ['0'] => true
    | '0' :: 'b' :: rest => allOf (fun c => c == '0' || c == '1' || c == '_') rest
    | '0' :: 'x' :: rest => allOf (fun c => c == '_' || (Text.hexValue? c).isSome) rest
    | '0' :: rest => allOf (fun c => ('0' ≤ c && c ≤ '7') || c == '_') rest
    | _ => false
  decimal || based

/-- A number with a point. An exponent needs a sign; a number that begins with the point has none itself. -/
def isFloat (s : List Char) : Bool :=
  let fraction (rest : List Char) : Bool := isExponent (rest.dropWhile isDigitOrBar)
  let body := unsigned s
  let pointed := match takeDigits true body with
    | some ('.' :: rest) => fraction rest
    | some rest => match takeSixtieths rest.length rest with
      | some ('.' :: rest) => rest.all isDigitOrBar
      | _ => false
    | none => false
  let bare := match s with
    | '.' :: rest => (takeDigits true rest).any isExponent
    | _ => false
  let infinite := [".inf", ".Inf", ".INF"].any fun w => w.toList = body
  let nan := [".nan", ".NaN", ".NAN"].any fun w => w.toList = s
  pointed || bare || infinite || nan

/-- The tag of a plain scalar. A line end at its end does not count, unless there is nothing else. -/
def ofPlain (s : List Char) : Tag :=
  let s := if s = ['\n'] then s else Text.withoutLastFeed s
  if isBool s then bool
  else if isFloat s then float
  else if isInt s then int
  else if s = ['<', '<'] then merge
  else if isNull s then null
  else if Timestamp.isRecognized s then timestamp
  else if s = ['='] then default
  else text

end Tag

end BlockRules.Yaml
