import BlockRules.Document.Writing
import BlockRules.Yaml.Style

set_option autoImplicit false

/-!
# Writing YAML

Values as block collections, with an indentation of two columns; sequences in mappings are not indented. Long
scalars are folded where a space allows it once a line is wider than 80 columns. A key that is empty, long or
has line ends is written after a question mark.
-/
namespace BlockRules.Yaml

def lineWidth : Nat := 80

def indentStep : Nat := 2

structure Pen where
  written : List Char
  column : Nat
  /-- The last character is blank, or the line is empty. -/
  afterBlank : Bool
  /-- The line has nothing but indentation and marks of collections. -/
  atIndent : Bool

namespace Pen

def start : Pen := ⟨[], 0, true, true⟩

def put (p : Pen) (s : List Char) : Pen :=
  { p with written := s.reverse ++ p.written, column := p.column + s.length }

def newLine (p : Pen) : Pen := ⟨'\n' :: p.written, 0, true, true⟩

/-- The place where a line with some indentation goes on, on a new line unless this one has come just so far. -/
def indentTo (p : Pen) (indent : Nat) : Pen :=
  let p := if !p.atIndent || indent < p.column || (p.column == indent && !p.afterBlank) then p.newLine else p
  if p.column < indent then { p.put (List.replicate (indent - p.column) ' ') with afterBlank := true } else p

/-- A mark, with a space before it where one is needed. A mark of a collection leaves the line at its
indentation. -/
def mark (p : Pen) (s : List Char) (spaced collection : Bool) : Pen :=
  let p := if spaced && !p.afterBlank then p.put [' '] else p
  { p.put s with afterBlank := false, atIndent := p.atIndent && collection }

def text (p : Pen) : List Char := p.written.reverse

/-- A text is folded at a space that stands alone and comes after the width. -/
def foldsAt (p : Pen) (folds : Bool) (count : Nat) : Bool := folds && count == 1 && lineWidth < p.column

def plainBody (folds : Bool) (indent : Nat) (p : Pen) (spaces : Nat) : List Char → Pen
  | [] => p.put (List.replicate spaces ' ')
  | ' ' :: rest => plainBody folds indent p (spaces + 1) rest
  | c :: rest =>
    let p :=
      if spaces = 0 then p
      else if p.foldsAt folds spaces then { p.indentTo indent with afterBlank := false, atIndent := false }
      else p.put (List.replicate spaces ' ')
    plainBody folds indent (p.put [c]) 0 rest

def plain (p : Pen) (folds : Bool) (indent : Nat) (s : List Char) : Pen :=
  let p := if p.afterBlank then p else p.put [' ']
  plainBody folds indent { p with afterBlank := false, atIndent := false } 0 s

def breaks (p : Pen) (indent count : Nat) : Pen :=
  ((List.replicate (count + 1) ()).foldl (fun p _ => p.newLine) p).indentTo indent

/-- The text of a single-quoted scalar, of which some spaces or line ends are not written yet. Spaces at its
ends are not folded. -/
def singleBody (folds : Bool) (indent : Nat) (p : Pen) (atStart : Bool) (spaces ends : Nat) : List Char → Pen
  | [] => if ends = 0 then p.put (List.replicate spaces ' ') else p.breaks indent ends
  | ' ' :: rest =>
    let p := if ends = 0 then p else p.breaks indent ends
    singleBody folds indent p atStart (spaces + 1) 0 rest
  | '\n' :: rest =>
    let p := p.put (List.replicate spaces ' ')
    singleBody folds indent p false 0 (ends + 1) rest
  | c :: rest =>
    let p :=
      if ends ≠ 0 then p.breaks indent ends
      else if spaces = 0 then p
      else if !atStart && p.foldsAt folds spaces then p.indentTo indent
      else p.put (List.replicate spaces ' ')
    singleBody folds indent (p.put (if c = '\'' then ['\'', '\''] else [c])) false 0 0 rest

def single (p : Pen) (folds : Bool) (indent : Nat) (s : List Char) : Pen :=
  ((singleBody folds indent (p.mark ['\''] true false) true 0 0 s).mark ['\''] false false)

/-- A line of a double-quoted scalar ends with a backslash; a space that begins the next line gets one too. -/
def foldDouble (p : Pen) (indent : Nat) (next : Option Char) : Pen :=
  let p := { (p.put ['\\']).indentTo indent with afterBlank := false, atIndent := false }
  if next = some ' ' then p.put ['\\'] else p

/-- The text of a double-quoted scalar, of which some direct characters are not written yet, the last one first.
A line may end before a space or after an escape, but not next to the ends of the text. -/
def doubleBody (folds : Bool) (indent : Nat) (p : Pen) (atStart : Bool) (direct : List Char) : List Char → Pen
  | [] => p.put direct.reverse
  | c :: rest =>
    let (p, direct, escaped) := match escapedChar? c with
      | some e => ((p.put direct.reverse).put e, [], true)
      | none => (p, direct, false)
    let wide := if escaped then lineWidth + 1 < p.column else lineWidth < p.column + direct.length
    if folds && !atStart && !rest.isEmpty && (c == ' ' || direct.isEmpty) && wide then
      let p := (p.put direct.reverse).foldDouble indent (if escaped then rest.head? else some c)
      doubleBody folds indent p false (if escaped then [] else [c]) rest
    else doubleBody folds indent p false (if escaped then direct else c :: direct) rest

def double (p : Pen) (folds : Bool) (indent : Nat) (s : List Char) : Pen :=
  (doubleBody folds indent (p.mark ['"'] true false) true [] s).mark ['"'] false false

def styled (p : Pen) (asKey : Bool) (indent : Nat) (s : List Char) : Pen :=
  match Style.ofText asKey s with
  | .plain => p.plain (!asKey) indent s
  | .single => p.single (!asKey) indent s
  | .double => p.double (!asKey) indent s

end Pen

def writtenNumber : Binary64 → List Char
  | .nan => ".nan".toList
  | .infinite negative => if negative then "-.inf".toList else ".inf".toList
  | x =>
    let s := x.text.toList
    let digits := s.takeWhile (· != 'e')
    if digits.contains '.' then s else digits ++ (if digits.length < s.length then ".0".toList else []) ++ s.drop digits.length

namespace Pen

def scalar (p : Pen) (asKey : Bool) (indent : Nat) : Scalar → Pen
  | .null => p.plain (!asKey) indent "null".toList
  | .bool b => p.plain (!asKey) indent (if b then "true" else "false").toList
  | .int n => p.plain (!asKey) indent (writtenInt n)
  | .float x => p.plain (!asKey) indent (writtenNumber x)
  | .text s => p.styled asKey indent s.toList
  | s => p.styled asKey indent s.keyText.toList

def tagLength : Nat := 5

def keyLimit : Nat := 128

def isSimpleKey (s : List Char) : Bool :=
  !s.isEmpty && !s.any isBreak && s.length + tagLength < keyLimit

def key (p : Pen) (indent : Nat) (s : List Char) : Pen :=
  let p := p.indentTo indent
  if isSimpleKey s then (p.styled true (indent + indentStep) s).mark [':'] false false
  else
    let p := (p.mark ['?'] true true).styled false (indent + indentStep) s
    (p.indentTo indent).mark [':'] true true

def item (p : Pen) (indent : Nat) : Pen := (p.indentTo indent).mark ['-'] true true

/-- The indentation of a sequence in a collection. After a colon on the line of its key it is that of the
mapping. -/
def itemIndent (p : Pen) (indent : Nat) (inMapping : Bool) : Nat :=
  if inMapping && !p.atIndent then indent else indent + indentStep

mutual

def value (p : Pen) (indent : Nat) (inMapping : Bool) : Value → Pen
  | .scalar s => p.scalar false (indent + indentStep) s
  | .list items =>
    if items.isEmpty then (p.mark ['['] true false).mark [']'] false false
    else p.items (p.itemIndent indent inMapping) items
  | .object fields =>
    if fields.isEmpty then (p.mark ['\x7b'] true false).mark ['\x7d'] false false
    else p.fields (indent + indentStep) fields
  | .entry k content =>
    let inner := p.itemIndent indent inMapping
    (((p.item inner).value inner false k).item inner).value inner false content
  | .set members =>
    let inner := p.itemIndent indent inMapping
    members.foldl (fun p s => (p.item inner).scalar false (inner + indentStep) s) p
  | .again isObject =>
    if isObject then (p.mark ['\x7b'] true false).mark ['\x7d'] false false
    else (p.mark ['['] true false).mark [']'] false false

def items (p : Pen) (indent : Nat) : List Value → Pen
  | [] => p
  | v :: rest => ((p.item indent).value indent false v).items indent rest

def fields (p : Pen) (indent : Nat) : List (Scalar × Value) → Pen
  | [] => p
  | (k, v) :: rest => ((p.key indent k.keyText.toList).value indent true v).fields indent rest

end

end Pen

def write (v : Value) : List Char :=
  let p := match v with
    | .scalar s => Pen.start.scalar false indentStep s
    | .list items => if items.isEmpty then Pen.start.value 0 false v else Pen.start.items 0 items
    | .object fields => if fields.isEmpty then Pen.start.value 0 false v else Pen.start.fields 0 fields
    | v => Pen.start.value 0 false v
  (p.newLine).text

end BlockRules.Yaml
