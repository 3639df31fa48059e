set_option autoImplicit false

namespace BlockRules

structure Path where
  names : List String
  deriving DecidableEq

namespace Path

def betweenSlashes : List Char → List (List Char)
  | [] => [[]]
  | c :: rest =>
    match betweenSlashes rest with
    | part :: parts => if c = '/' then [] :: part :: parts else (c :: part) :: parts
    | [] => []

/-- The path of a text. Empty names, and single points, which stand for the same directory, are left out. -/
def ofText (s : String) : Path :=
  ⟨((betweenSlashes s.toList).filter fun part => part ≠ [] ∧ part ≠ ['.']).map String.ofList⟩

def text (root : String) (p : Path) : String := "/".intercalate (root :: p.names)

def name (p : Path) : List Char := (p.names.getLast?.getD "").toList

/-- A name cut before its last point: the stem, and the suffix with the point. -/
def splitName (name : List Char) : List Char × List Char :=
  let after := (name.reverse.takeWhile (· != '.')).reverse
  let before := name.take (name.length - after.length - 1)
  if after.isEmpty || before.isEmpty || !name.contains '.' then (name, [])
  else (before, '.' :: after)

def stem (p : Path) : String := String.ofList (splitName p.name).1

def suffix (p : Path) : String := String.ofList (splitName p.name).2

def child (p : Path) (name : String) : Path := ⟨p.names ++ [name]⟩

end Path

inductive FileFormat where
  | json
  | yaml
  deriving DecidableEq

namespace FileFormat

def suffixes : List (String × FileFormat) := [(".json", json), (".yaml", yaml), (".yml", yaml)]

def ofSuffix? (suffix : String) : Option FileFormat :=
  suffixes.lookup (String.ofList (suffix.toList.map Char.toLower))

end FileFormat

end BlockRules
