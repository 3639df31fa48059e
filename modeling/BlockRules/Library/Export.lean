import BlockRules.Document.Obstacle
import BlockRules.Json.Writing
import BlockRules.Library.Files
import BlockRules.Yaml.Writing

set_option autoImplicit false

namespace BlockRules

inductive ExportError where
  | unsupportedType (suffix : String)
  | obstacle (o : Obstacle)
  | integerTooLong
  | file (e : Files.WriteError) (path : String)

namespace ExportError

def message : ExportError → String
  | unsupportedType suffix => "Unsupported rule file type: " ++ suffix
  | obstacle o => o.message
  | integerTooLong => Number.longMessage
  | file .noDirectory path => "[Errno 2] No such file or directory: " ++ String.ofList (Text.quoted path.toList)
  | file .notDirectory path => "[Errno 20] Not a directory: " ++ String.ofList (Text.quoted path.toList)
  | file .isDirectory _ => ""
  | file .tooLong path => Files.tooLongMessage path
  | file .zero _ => "embedded null byte"

end ExportError

namespace Document

def exportText (d : Document) : FileFormat → List Char
  | .json => Json.indented 0 d.exportValue
  | .yaml => Yaml.write d.exportValue

def brokenText : FileFormat → List Char
  | .json => ['\x7b']
  | .yaml => []

/-- What comes of writing the export to a file that may be written: the text, and why it was given up if it was. -/
def written (d : Document) (format : FileFormat) : List Char × Option ExportError :=
  if d.hasLongInteger then (brokenText format, some .integerTooLong) else (d.exportText format, none)

def exportTo (d : Document) (files : Files) (path : Path) : Files × Except ExportError (List Char) :=
  match FileFormat.ofSuffix? path.suffix, d.obstacle? with
  | none, _ => (files, .error (.unsupportedType path.suffix))
  | some _, some o => (files, .error (.obstacle o))
  | some format, none =>
    let (text, failure) := d.written format
    match files.write path (text.map fun c => UInt8.ofNat c.toNat), failure with
    | .error e, _ => (files, .error (.file e (path.text files.root)))
    | .ok files, some e => (files, .error e)
    | .ok files, none => (files, .ok text)

end Document

end BlockRules
