import BlockRules.Keyed
import BlockRules.Text.Blank

set_option autoImplicit false

/-!
# Files of variables

Lines of the form `KEY=value`, as a `.env` file has them. Keys may be quoted or follow the word `export`, values
may be quoted and then go over several lines, and `#` starts a comment after a blank. A line that cannot be read
is left out. In a value, `$` and a name in braces stand for a variable, with a default after `:-`.
-/
namespace BlockRules.Dotenv
open Text

def isLineBlank (c : Char) : Bool := isBlank c && c != '\n'

structure Binding where
  key : List Char
  value : Option (List Char)

/-- The text up to the quote that closes it, and the rest. What follows a backslash does not close. -/
def takeQuoted (quote : Char) : List Char → Option (List Char × List Char)
  | [] => none
  | '\\' :: c :: rest => (takeQuoted quote rest).map fun (content, after) => ('\\' :: c :: content, after)
  | c :: rest =>
    if c = quote then some ([], rest)
    else (takeQuoted quote rest).map fun (content, after) => (c :: content, after)

def singleEscape? (c : Char) : Option Char := if c = '\\' ∨ c = '\'' then some c else none

def doubleEscape? : Char → Option Char
  | '\\' => some '\\'
  | '\'' => some '\''
  | '"' => some '"'
  | 'a' => some '\x07'
  | 'b' => some '\x08'
  | 'f' => some '\x0c'
  | 'n' => some '\n'
  | 'r' => some '\r'
  | 't' => some '\t'
  | 'v' => some '\x0b'
  | _ => none

def unescape (escape? : Char → Option Char) : List Char → List Char
  | '\\' :: c :: rest =>
    match escape? c with
    | some d => d :: unescape escape? rest
    | none => '\\' :: unescape escape? (c :: rest)
  | c :: rest => c :: unescape escape? rest
  | [] => []

/-- A value without quotes: up to the first comment that follows blanks. -/
def beforeComment : List Char → List Char
  | [] => []
  | c :: rest =>
    if isBlank c && (rest.dropWhile isBlank).head? == some '#' then [] else c :: beforeComment rest

def takeValue (s : List Char) : Option (List Char × List Char) :=
  match s.dropWhile isLineBlank with
  | '\'' :: rest => (takeQuoted '\'' rest).map fun (content, after) => (unescape singleEscape? content, after)
  | '"' :: rest => (takeQuoted '"' rest).map fun (content, after) => (unescape doubleEscape? content, after)
  | _ =>
    let line := s.takeWhile (· != '\n')
    some (strip (beforeComment line), s.drop line.length)

def takeKey (s : List Char) : Option (Option (List Char) × List Char) :=
  match s with
  | '#' :: _ => some (none, s)
  | '\'' :: rest =>
    let key := rest.takeWhile (· != '\'')
    match rest.drop key.length with
    | _ :: after => if key.isEmpty then none else some (some key, after)
    | [] => none
  | s =>
    let key := s.takeWhile fun c => c != '=' && c != '#' && !isBlank c
    if key.isEmpty then none else some (some key, s.drop key.length)

def skipExport (s : List Char) : List Char :=
  let word := "export".toList
  let after := s.drop word.length
  if word.isPrefixOf s && after.head?.any isLineBlank then after.dropWhile isLineBlank else s

def endLine (s : List Char) : Option (List Char) :=
  let s := s.dropWhile isLineBlank
  let s := if s.head? = some '#' then s.dropWhile (· != '\n') else s
  match s with
  | [] => some []
  | '\n' :: rest => some rest
  | _ => none

def takeBinding (s : List Char) : Except (List Char) (Option Binding × List Char) :=
  match takeKey s with
  | none => .error s
  | some (key, s) =>
    let s := s.dropWhile isLineBlank
    match s with
    | '=' :: s =>
      match takeValue s with
      | none => .error s
      | some (value, s) => match endLine s with
        | none => .error s
        | some rest => .ok (key.map fun k => ⟨k, some value⟩, rest)
    | s => match endLine s with
      | none => .error s
      | some rest => .ok (key.map fun k => ⟨k, none⟩, rest)

def skipLine (s : List Char) : List Char := (s.dropWhile (· != '\n')).drop 1

/-- The bindings of a text, in order. Each step leaves less of the text, so that as many steps as it has
characters are enough. -/
def bindingsFrom : Nat → List Char → List Binding
  | 0, _ => []
  | fuel + 1, s =>
    let s := s.dropWhile isBlank
    if s.isEmpty then []
    else match takeBinding (skipExport s) with
      | .error rest => bindingsFrom fuel (skipLine rest)
      | .ok (binding, rest) => binding.toList ++ bindingsFrom fuel rest

def bindings (s : List Char) : List Binding := bindingsFrom (s.length + 1) s

/-- The name and the default of a variable, from what stands between its braces. A name has no colon; the
default follows `:-`. -/
def nameAndDefault? (content : List Char) : Option (List Char × List Char) :=
  let name := content.takeWhile (· != ':')
  match content.drop name.length with
  | [] => some (name, [])
  | ':' :: '-' :: default => some (name, default)
  | _ => none

def substitute (lookup : List Char → Option (List Char)) : List Char → List Char
  | [] => []
  | '$' :: '\x7b' :: rest =>
    match _split : rest.dropWhile (· != '\x7d'), nameAndDefault? (rest.takeWhile (· != '\x7d')) with
    | _ :: after, some (name, default) => (lookup name).getD default ++ substitute lookup after
    | _, _ => '$' :: substitute lookup ('\x7b' :: rest)
  | c :: rest => c :: substitute lookup rest
termination_by s => s.length
decreasing_by
  · have := (List.dropWhile_sublist (l := rest) (· != '\x7d')).length_le
    rw [_split] at this
    simp at this ⊢
    omega
  · simp
  · simp

/-- The variables of a text, by name. A variable in a value is taken from the lines before, or else from the
given ones; one that has no value counts as empty. -/
def definitions (given : List (List Char × List Char)) (s : List Char) : Keyed (List Char) (Option (List Char)) :=
  (bindings s).foldl
    (fun read b =>
      let lookup (name : List Char) : Option (List Char) :=
        match read.get? name with
        | some value => some (value.getD [])
        | none => given.lookup name
      read.put b.key (b.value.map (substitute lookup)))
    []

end BlockRules.Dotenv
