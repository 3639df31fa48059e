import BlockRules.Text.Hex
import BlockRules.Text.Utf8
import BlockRules.Yaml.Cursor
import BlockRules.Yaml.Error

set_option autoImplicit false

namespace BlockRules.Yaml

structure WrittenTag where
  handle : Option (List Char)
  suffix : List Char

inductive Directive where
  /-- The version, of which only the first number counts. -/
  | version (major : Nat)
  | tag (handle start : List Char)
  | other

def takeName (c : Cursor) : Except ReadError (List Char × Cursor) :=
  let name := c.run isNameChar
  let after := c.skip name.length
  let ends := isGap after.head? || after.nextIs fun ch => "?:,]\x7d%@`".toList.contains ch
  if name.isEmpty || !ends then .error .malformed else .ok (name, after)

def isAddressChar (c : Char) : Bool := isNameChar c || ";/?:@&=+$,_.!~*'()[]%".toList.contains c

def takeBytes : Nat → List Char → Except ReadError (List UInt8 × Nat)
  | 0, _ => .ok ([], 0)
  | fuel + 1, s =>
    match s with
    | '%' :: a :: b :: rest => match Text.hexNumber? [a, b] with
      | some n => (takeBytes fuel rest).map fun (bytes, count) => (UInt8.ofNat n :: bytes, count + 3)
      | none => .error .malformed
    | '%' :: _ => .error .malformed
    | _ => .ok ([], 0)

def takeAddressFrom : Nat → Cursor → Except ReadError (List Char × Cursor)
  | 0, _ => .error .malformed
  | fuel + 1, c =>
    match c.head? with
    | none => .ok ([], c)
    | some ch =>
      if ch = '%' then do
        let (bytes, count) ← takeBytes c.left c.rest
        match Text.decodeUtf8 bytes with
        | none => throw .malformed
        | some text =>
          let (more, after) ← takeAddressFrom fuel (c.skip count)
          return (text ++ more, after)
      else if isAddressChar ch then do
        let (more, after) ← takeAddressFrom fuel c.next
        return (ch :: more, after)
      else .ok ([], c)

def takeAddress (c : Cursor) : Except ReadError (List Char × Cursor) := do
  let (text, after) ← takeAddressFrom (c.left + 1) c
  if after.index = c.index then throw .malformed else return (text, after)

def takeHandle (c : Cursor) : Except ReadError (List Char × Cursor) :=
  if !c.nextIs (· == '!') then .error .malformed
  else if c.peek 1 = some ' ' then .ok (['!'], c.next)
  else
    let name := c.next.run isNameChar
    let after := c.next.skip name.length
    if after.nextIs (· == '!') then .ok ('!' :: name ++ ['!'], after.next) else .error .malformed

/-- Whether a tag that starts here has a handle with a second exclamation mark. -/
def hasLongHandle (c : Cursor) : Bool :=
  ((c.next.run fun ch => !(ch == ' ' || isBreak ch)).contains '!')

def takeTag (c : Cursor) : Except ReadError (WrittenTag × Cursor) := do
  let (tag, after) ←
    if c.peek 1 = some '<' then do
      let (suffix, after) ← takeAddress (c.skip 2)
      if after.nextIs (· == '>') then pure (WrittenTag.mk none suffix, after.next) else throw .malformed
    else if isGap (c.peek 1) then pure (WrittenTag.mk none ['!'], c.next)
    else if hasLongHandle c then do
      let (handle, after) ← takeHandle c
      let (suffix, after) ← takeAddress after
      pure (WrittenTag.mk (some handle) suffix, after)
    else do
      let (suffix, after) ← takeAddress c.next
      pure (WrittenTag.mk (some ['!']) suffix, after)
  if after.nextIs (· == '\t') || !isGap after.head? then throw .malformed
  return (tag, after)

def takeNumber (c : Cursor) : Except ReadError (Nat × Cursor) :=
  let digits := c.run fun ch => '0' ≤ ch && ch ≤ '9'
  if digits.isEmpty then .error .malformed
  else if Number.digitLimit < digits.length then .error (.integer (.tooLong digits.length))
  else .ok (digits.foldl (fun n ch => 10 * n + (ch.toNat - '0'.toNat)) 0, c.skip digits.length)

def expectSpace (c : Cursor) : Except ReadError Unit :=
  if c.nextIs (· == '\t') || !isGap c.head? then .error .malformed else .ok ()

def takeDirective (c : Cursor) : Except ReadError (Directive × Cursor) := do
  let name := c.next.run isNameChar
  let c := c.next.skip name.length
  if name.isEmpty then throw .malformed
  expectSpace c
  let (directive, c) ←
    if name = "YAML".toList then do
      let (major, c) ← takeNumber c.skipSpaces
      if !c.nextIs (· == '.') then throw .malformed
      let (_, c) ← takeNumber c.next
      expectSpace c
      pure (Directive.version major, c)
    else if name = "TAG".toList then do
      let (handle, c) ← takeHandle c.skipSpaces
      if !c.nextIs (· == ' ') then throw .malformed
      let (start, c) ← takeAddress c.skipSpaces
      expectSpace c
      pure (Directive.tag handle start, c)
    else pure (Directive.other, c.skipLine)
  let c := c.skipSpaces.skipComment
  if endsLine c.head? then return (directive, c.takeBreak.2) else throw .malformed

end BlockRules.Yaml
