import BlockRules.Keyed
import BlockRules.Library.Path
import BlockRules.Text.Quoted

set_option autoImplicit false

/-!
# Files

A tree of directories and files below one directory, which always exists. Outside of that directory nothing is
known. A path leads through directories only; two points go up by one. Names and paths are limited in length, which
shows only where a name is looked up.
-/
namespace BlockRules

inductive FileEntry where
  | file (content : List UInt8)
  | directory
  deriving DecidableEq

structure Files where
  root : String
  entries : Keyed (List String) FileEntry

namespace Files

def empty (root : String) : Files := ⟨root, []⟩

def entry? (f : Files) (place : List String) : Option FileEntry :=
  if place = [] then some .directory else Keyed.get? f.entries place

/-- The place that a path leads to, which may be free; none if the way there is not through directories. -/
def locate? (f : Files) (place : List String) : List String → Option (List String)
  | [] => some place
  | name :: rest =>
    if f.entry? place ≠ some .directory then none
    else if name = ".." then
      if place = [] then none else locate? f place.dropLast rest
    else locate? f (place ++ [name]) rest

def nameLimit : Nat := 255

def pathLimit : Nat := 4096

/-- The bytes that the directory at the top takes of a path. -/
def rootLength : Nat := 16

def reachesLongName (f : Files) (place : List String) : List String → Bool
  | [] => false
  | name :: rest =>
    f.entry? place == some .directory &&
      (decide (nameLimit < name.utf8ByteSize) ||
        reachesLongName f (if name = ".." then place.dropLast else place ++ [name]) rest)

def isTooLong (f : Files) (p : Path) : Bool :=
  pathLimit ≤ (p.names.map fun name => name.utf8ByteSize + 1).foldl (· + ·) rootLength || f.reachesLongName [] p.names

def find? (f : Files) (p : Path) : Option FileEntry := (f.locate? [] p.names).bind f.entry?

def exists? (f : Files) (p : Path) : Bool := (f.find? p).isSome

def names (f : Files) (p : Path) : List String :=
  match f.locate? [] p.names with
  | none => []
  | some place =>
    let inside := f.entries.filterMap fun e =>
      if e.1.length = place.length + 1 ∧ place.isPrefixOf e.1 then e.1.getLast? else none
    inside.mergeSort fun a b => decide (a ≤ b)

def tooLongMessage (path : String) : String :=
  "[Errno 36] File name too long: " ++ String.ofList (Text.quoted path.toList)

inductive WriteError where
  | noDirectory
  | notDirectory
  | isDirectory
  | tooLong
  | zero
  deriving DecidableEq

def isBlocked (f : Files) (place : List String) : List String → Bool
  | [] => false
  | name :: rest =>
    match f.entry? place with
    | some .directory => if name = ".." then isBlocked f place.dropLast rest else isBlocked f (place ++ [name]) rest
    | some (.file _) => true
    | none => false

def write (f : Files) (p : Path) (content : List UInt8) : Except WriteError Files :=
  if p.names.any fun name => name.contains '\x00' then .error .zero
  else if f.isTooLong p then .error .tooLong
  else match f.locate? [] p.names with
    | none => .error (if f.isBlocked [] p.names then .notDirectory else .noDirectory)
    | some place => match f.entry? place with
      | some .directory => .error .isDirectory
      | _ => .ok { f with entries := Keyed.put place (.file content) f.entries }

def addDirectory (f : Files) (place : List String) : Files :=
  { f with
    entries := (List.range place.length).foldl
      (fun entries n => Keyed.put (place.take (n + 1)) .directory entries) f.entries }

def addFile (f : Files) (place : List String) (content : List UInt8) : Files :=
  let f := f.addDirectory place.dropLast
  { f with entries := Keyed.put place (.file content) f.entries }

end Files

end BlockRules
