import BlockRules.Text.Hex
import BlockRules.Text.Utf16
import BlockRules.Yaml.Cursor
import BlockRules.Yaml.Error

set_option autoImplicit false

/-!
# Texts of scalars

A scalar is plain, quoted, or a block of lines. Over several lines the text of a plain or quoted scalar is
folded: a single line end counts as a space, and of more the first is dropped.
-/
namespace BlockRules.Yaml

/-- The text of line ends: `first`, then `others`, folded. -/
def foldedBreaks (first others : List Char) : List Char :=
  (if first ≠ ['\n'] then first else if others.isEmpty then [' '] else []) ++ others

def isFlowMark (c : Char) : Bool := c == ',' || c == '[' || c == ']' || c == '\x7b' || c == '\x7d'

def endsKey (inFlow : Bool) (next : Option Char) : Bool := isGap next || (inFlow && next.any isFlowMark)

def plainWord (inFlow : Bool) : List Char → List Char
  | [] => []
  | c :: rest =>
    if isGap (some c) || (c == ':' && endsKey inFlow rest.head?) || (inFlow && (isFlowMark c || c == '?')) then []
    else c :: plainWord inFlow rest

def plainBreaks (c : Cursor) (breaks : List Char) : Option (List Char) × Cursor :=
  if c.rest = [] then (some breaks, c)
  else if c.nextIs (· == ' ') then plainBreaks c.next breaks
  else if c.nextIs isBreak then
    if c.next.atMarker then (none, c.next) else plainBreaks c.next (breaks ++ c.takeBreak.1)
  else (some breaks, c)
termination_by c.rest.length
decreasing_by all_goals exact Cursor.next_rest_length (by assumption)

/-- What stands between two words of a plain scalar; nothing where it ends. The flag says whether a line ended. -/
def plainGap (c : Cursor) : List Char × Cursor × Bool :=
  let spaces := c.run (· == ' ')
  let c := c.skipSpaces
  if c.nextIs isBreak then
    let (first, c) := c.takeBreak
    if c.atMarker then ([], c, true)
    else match plainBreaks c [] with
      | (some others, c) => (foldedBreaks first others, c, true)
      | (none, c) => ([], c, true)
  else (spaces, c, false)

/-- The words of a plain scalar from a word on, with the gap before it; lines after the first start at a column
or further in. The flag says whether a line ended after the last word. -/
def plainWords (inFlow : Bool) (least : Nat) : Nat → List Char → Cursor → List Char × Cursor × Bool
  | 0, _, c => ([], c, false)
  | fuel + 1, gap, c =>
    let word := if c.nextIs (· == '#') then [] else plainWord inFlow c.rest
    if word.isEmpty then ([], c, false)
    else
      let (next, after, crossed) := plainGap (c.skip word.length)
      if next.isEmpty || after.nextIs (· == '#') || (!inFlow && after.column < least) then
        (gap ++ word, after, crossed)
      else
        let (words, last, crossedLater) := plainWords inFlow least fuel next after
        (gap ++ word ++ words, last, if words.isEmpty then crossed else crossedLater)

def plainText (inFlow : Bool) (least : Nat) (c : Cursor) : List Char × Cursor × Bool :=
  plainWords inFlow least (c.left + 1) [] c

def escapes : List (Char × Char) :=
  [('0', '\x00'), ('a', '\x07'), ('b', '\x08'), ('t', '\t'), ('\t', '\t'), ('n', '\n'), ('v', '\x0b'), ('f', '\x0c'),
    ('r', '\r'), ('e', '\x1b'), (' ', ' '), ('"', '"'), ('\\', '\\'), ('/', '/'), ('N', '\x85'), ('_', '\xa0'),
    ('L', '\u2028'), ('P', '\u2029')]

def numberedEscapes : List (Char × Nat) := [('x', 2), ('u', 4), ('U', 8)]

def numberedChar (n : Nat) : Except ReadError Char :=
  if n < 0x110000 then (Text.unitChar? n).elim (.error .loneSurrogate) .ok
  else if n < 0x80000000 then .error .characterRange
  else .error .characterSize

def quotedBreaks (c : Cursor) (breaks : List Char) : Except ReadError (List Char × Cursor) :=
  if c.column = 0 && c.atMarker then .error .malformed
  else if c.rest = [] then .ok (breaks, c)
  else if c.nextIs isSpaceOrTab then quotedBreaks c.next breaks
  else if c.nextIs isBreak then quotedBreaks c.next (breaks ++ c.takeBreak.1)
  else .ok (breaks, c)
termination_by c.rest.length
decreasing_by all_goals exact Cursor.next_rest_length (by assumption)

def quotedGap (c : Cursor) : Except ReadError (List Char × Cursor) :=
  let blanks := c.run isSpaceOrTab
  let c := c.skip blanks.length
  if c.rest = [] then .error .malformed
  else if c.nextIs isBreak then do
    let (first, c) := c.takeBreak
    let (others, c) ← quotedBreaks c []
    return (foldedBreaks first others, c)
  else .ok (blanks, c)

/-- What an escape stands for, its backslash passed already. An escaped line end stands for nothing. -/
def escaped (c : Cursor) : Except ReadError (List Char × Cursor) :=
  match c.head? with
  | none => .error .malformed
  | some ch =>
    match escapes.lookup ch, numberedEscapes.lookup ch with
    | some d, _ => .ok ([d], c.next)
    | none, some digits =>
      let written := c.next.rest.take digits
      match if written.length = digits then Text.hexNumber? written else none with
      | some n => (numberedChar n).map fun d => ([d], c.next.skip digits)
      | none => .error .malformed
    | none, none => if isBreak ch then quotedBreaks c.next [] else .error .malformed

def quotedFrom (double : Bool) : Nat → Cursor → Except ReadError (List Char × Cursor)
  | 0, _ => .error .malformed
  | fuel + 1, c =>
    match c.head? with
    | none => .error .malformed
    | some ch =>
      let continued (part : List Char) (c : Cursor) : Except ReadError (List Char × Cursor) :=
        (quotedFrom double fuel c).map fun (text, after) => (part ++ text, after)
      if ch = (if double then '"' else '\'') then
        if !double && c.peek 1 == some '\'' then continued ['\''] (c.skip 2) else .ok ([], c.next)
      else if double && ch == '\\' then do
        let (part, c) ← escaped c.next
        continued part c
      else if isGap (some ch) then do
        let (part, c) ← quotedGap c
        continued part c
      else continued [ch] c.next

def quotedText (double : Bool) (c : Cursor) : Except ReadError (List Char × Cursor) :=
  quotedFrom double (c.left + 1) c

inductive Chomp where
  | clip
  | keep
  | strip

def chomp? : Option Char → Option Chomp
  | some '+' => some .keep
  | some '-' => some .strip
  | _ => none

/-- The indentation that the head of a block gives, if it does. Zero is refused. -/
def blockIndent? (c : Option Char) : Except ReadError (Option Nat) :=
  match c.bind fun c => if '0' ≤ c ∧ c ≤ '9' then some (c.toNat - '0'.toNat) else none with
  | some 0 => .error .malformed
  | d => .ok d

def blockHead (c : Cursor) : Except ReadError (Chomp × Option Nat × Cursor) := do
  let (chomp, indent, c) ← match chomp? c.head? with
    | some chomp => do
      let c := c.next
      let indent ← blockIndent? c.head?
      pure (chomp, indent, if indent.isSome then c.next else c)
    | none => do
      let indent ← blockIndent? c.head?
      if indent.isSome then
        let c := c.next
        match chomp? c.head? with
        | some chomp => pure (chomp, indent, c.next)
        | none => pure (.clip, indent, c)
      else pure (.clip, indent, c)
  if c.nextIs (· == '\t') || !isGap c.head? then throw .malformed
  let c := c.skipSpaces.skipComment
  if endsLine c.head? then return (chomp, indent, c.takeBreak.2) else throw .malformed

def leadingBreaks (c : Cursor) (breaks : List Char) (widest : Nat) : List Char × Nat × Cursor :=
  if c.rest = [] then (breaks, widest, c)
  else if c.nextIs (· == ' ') then leadingBreaks c.next breaks (max widest c.next.column)
  else if c.nextIs isBreak then leadingBreaks c.next (breaks ++ c.takeBreak.1) widest
  else (breaks, widest, c)
termination_by c.rest.length
decreasing_by all_goals exact Cursor.next_rest_length (by assumption)

def blockBreaks (indent : Nat) : Nat → Cursor → List Char × Cursor
  | 0, c => ([], c)
  | fuel + 1, c =>
    let c := c.skipIndent indent
    if c.nextIs isBreak then
      let (b, c) := c.takeBreak
      let (others, c) := blockBreaks indent fuel c
      (b ++ others, c)
    else ([], c)

/-- The lines of a block up to the last one's text, and then the end of that line and the empty lines after it.
In a folded block a line end between two lines that start with text counts as a space. -/
def blockLines (folded : Bool) (indent : Nat) :
    Nat → List Char → Cursor → List Char × List Char × List Char × Cursor
  | 0, breaks, c => ([], [], breaks, c)
  | fuel + 1, breaks, c =>
    if c.column = indent ∧ c.rest ≠ [] then
      let line := c.run fun ch => !isBreak ch
      let startsWithText := !c.nextIs isSpaceOrTab
      let (lineEnd, after) := (c.skip line.length).takeBreak
      let (others, after) := blockBreaks indent (after.left + 1) after
      if after.column = indent ∧ after.rest ≠ [] then
        let joint :=
          if folded && lineEnd == ['\n'] && startsWithText && !after.nextIs isSpaceOrTab then
            if others.isEmpty then [' '] else []
          else lineEnd
        let (text, lineEnd, rest, last) := blockLines folded indent fuel others after
        (breaks ++ line ++ joint ++ text, lineEnd, rest, last)
      else (breaks ++ line, lineEnd, others, after)
    else ([], [], breaks, c)

def blockText (folded : Bool) (indent : Int) (c : Cursor) : Except ReadError (List Char × Cursor) := do
  let (chomp, given, c) ← blockHead c
  let least := max 1 (indent + 1).toNat
  let (breaks, indent, c) := match given with
    | none =>
      let (breaks, widest, c) := leadingBreaks c [] 0
      (breaks, max least widest, c)
    | some n =>
      let indent := least + n - 1
      let (breaks, c) := blockBreaks indent (c.left + 1) c
      (breaks, indent, c)
  let (text, lineEnd, breaks, c) := blockLines folded indent (c.left + 1) breaks c
  return match chomp with
    | .clip => (text ++ lineEnd, c)
    | .keep => (text ++ lineEnd ++ breaks, c)
    | .strip => (text, c)

end BlockRules.Yaml
