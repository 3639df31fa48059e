import BlockRules.Document.Reading
import BlockRules.Json.Reading
import BlockRules.Keyed
import BlockRules.Library.Files
import BlockRules.Text.Lines
import BlockRules.Yaml.Content

set_option autoImplicit false

/-!
# Libraries of rules

A library keeps documents by their identifiers, in the order in which these came. Documents are loaded from
files, of which each holds one document or a list of them; a document without an identifier is named after its
file. Loading a directory passes over the files that cannot be loaded, and over those that escape a surrogate on its
own: what these hold is no text here.
-/
namespace BlockRules

inductive LoadError where
  | fileMissing (path : String)
  | unsupportedType (suffix : String)
  | isDirectory
  | undecodable
  | json (e : Json.ReadError)
  | yaml (e : Yaml.ReadError)
  | notMapping (path : String)
  | invalid (problems : List Problem)
  | unnamed
  | noDirectory
  | directoryMissing (path : String)
  | notDirectory (path : String)
  | pathTooLong (path : String)

namespace LoadError

def message : LoadError → String
  | fileMissing path => "Rule file not found: " ++ path
  | unsupportedType suffix => "Unsupported rule file type: " ++ suffix
  | isDirectory => ""
  | undecodable => ""
  | json (.longInt digits) => (Number.IntegerError.tooLong digits).message
  | json (.malformed _) => ""
  | json .tooDeep => ""
  | json .loneSurrogate => ""
  | yaml e => e.message
  | notMapping path => "Rule document must be a mapping: " ++ path
  | invalid _ => ""
  | unnamed => "Rule needs an id or a name"
  | noDirectory => "No rules directory specified"
  | directoryMissing path => "Rules directory not found: " ++ path
  | notDirectory path => "[Errno 20] Not a directory: " ++ String.ofList (Text.quoted path.toList)
  | pathTooLong path => Files.tooLongMessage path

def isPassedOver : LoadError → Bool
  | yaml .characterSize => false
  | yaml .emptyNumber => false
  | yaml (.bool _) => false
  | yaml .moment => false
  | yaml .tooDeep => false
  | yaml .momentOfMapping => false
  | yaml .factorRange => false
  | json .tooDeep => false
  | _ => true

end LoadError

structure Library where
  directory : Option Path
  rules : Keyed String Document

namespace Library

def empty (directory : Option Path) : Library := ⟨directory, []⟩

def get? (l : Library) (id : String) : Option Document := Keyed.get? l.rules id

def documents (l : Library) : List Document := l.rules.map (·.2)

/-- A document is kept under its identifier, or else under its name, which becomes its identifier if it has none
at all. -/
def add (l : Library) (d : Document) : Except LoadError (Library × Document) :=
  match given? (some ((given? d.id).getD d.name)) with
  | none => .error .unnamed
  | some key =>
    let d := if d.id.isNone then { d with id := some key } else d
    .ok ({ l with rules := Keyed.put key d l.rules }, d)

def readText (format : FileFormat) (text : List Char) : Except LoadError Value :=
  match format with
  | .json => (Json.readFile text).mapError .json
  | .yaml => (Yaml.read text).mapError .yaml

def readFile (files : Files) (path : Path) : Except LoadError Value :=
  if files.isTooLong path then .error (.pathTooLong (path.text files.root))
  else match files.find? path, FileFormat.ofSuffix? path.suffix with
    | none, _ => .error (.fileMissing (path.text files.root))
    | some _, none => .error (.unsupportedType path.suffix)
    | some .directory, some _ => .error .isDirectory
    | some (.file content), some format => match Text.decodeUtf8 content with
      | none => .error .undecodable
      | some text => readText format (Text.withLineFeeds text)

def itemsOf : Value → List Value
  | .list items => items
  | v => [v]

def fileId (path : Path) (count number : Nat) : String :=
  if 1 < count then path.stem ++ "-" ++ number.repr else path.stem

def readItem (root : String) (path : Path) (count number : Nat) : Value → Except LoadError Document
  | .object fields =>
    let named := ((Value.get? fields "id").getD .null).isBlank
    let fields := if named then Value.put fields (.text "id") (.text (fileId path count number)) else fields
    (Document.ofValue .document (.object fields)).mapError .invalid
  | _ => .error (.notMapping (path.text root))

/-- Items are added in turn. Those before one that fails stay. -/
def addItems (root : String) (path : Path) (count : Nat) (l : Library) (number : Nat) :
    List Value → Library × Except LoadError (List Document)
  | [] => (l, .ok [])
  | item :: rest =>
    match readItem root path count number item >>= l.add with
    | .error e => (l, .error e)
    | .ok (l, d) =>
      let (l, result) := addItems root path count l (number + 1) rest
      (l, result.map (d :: ·))

def loadFile (l : Library) (files : Files) (path : Path) : Library × Except LoadError (List Document) :=
  match readFile files path with
  | .error e => (l, .error e)
  | .ok v => addItems files.root path (itemsOf v).length l 1 (itemsOf v)

def loadFiles (files : Files) (l : Library) : List Path → Library × Except LoadError (List Document)
  | [] => (l, .ok [])
  | path :: rest =>
    match l.loadFile files path with
    | (l, .ok ds) =>
      let (l, result) := loadFiles files l rest
      (l, result.map (ds ++ ·))
    | (l, .error e) => if e.isPassedOver then loadFiles files l rest else (l, .error e)

/-- The files in a directory, or in the one of the library, are loaded in the order of their names. -/
def loadDirectory (l : Library) (files : Files) (directory : Option Path) :
    Library × Except LoadError (List Document) :=
  match directory.or l.directory with
  | none => (l, .error .noDirectory)
  | some path =>
    if files.isTooLong path then (l, .error (.pathTooLong (path.text files.root)))
    else match files.find? path with
    | none => (l, .error (.directoryMissing (path.text files.root)))
    | some (.file _) => (l, .error (.notDirectory (path.text files.root)))
    | some .directory =>
      let paths := (files.names path).map path.child
      loadFiles files l (paths.filter fun p => (FileFormat.ofSuffix? p.suffix).isSome)

structure NotFound where
  id : String

def NotFound.message (e : NotFound) : String := String.ofList (Text.quoted e.id.toList)

def require (l : Library) (id : String) : Except NotFound Document :=
  match l.get? id with
  | some d => .ok d
  | none => .error ⟨id⟩

end Library

end BlockRules
