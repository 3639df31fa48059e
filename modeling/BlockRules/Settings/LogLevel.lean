import BlockRules.Rule.Block
import BlockRules.Settings.Basic
import BlockRules.Text.Quoted

set_option autoImplicit false

/-!
# Log levels

The level below which messages are dropped is a number with a name. The level is set once: a later attempt
changes nothing.
-/
namespace BlockRules

inductive LogError where
  | unknownLevel (name : String)
  | styles
  deriving DecidableEq

/-- The form of a line where no other one is given. Its name is not free for a level. -/
def plainFormat : String := "%(levelname)s:%(name)s:%(message)s"

def lineStyles : List (Char × String × String) :=
  [('%', "PercentStyle", plainFormat),
    ('\x7b', "StrFormatStyle", "\x7blevelname\x7d:\x7bname\x7d:\x7bmessage\x7d"),
    ('$', "StringTemplateStyle", "$\x7blevelname\x7d:$\x7bname\x7d:$\x7bmessage\x7d")]

namespace LogError

def styleText (style : Char × String × String) : String :=
  String.ofList (Text.quoted [style.1]) ++ ": (<class 'logging." ++ style.2.1 ++ "'>, " ++
    String.ofList (Text.quoted style.2.2.toList) ++ ")"

def message : LogError → String
  | unknownLevel name => "Unknown level: " ++ String.ofList (Text.quoted name.toList)
  | styles =>
    "Level not an integer or a valid string: \x7b" ++ ", ".intercalate (lineStyles.map styleText) ++ "\x7d"

end LogError

structure LogState where
  configured : Bool
  level : Int

namespace LogState

def initial : LogState := ⟨false, 30⟩

def format : String := "%(asctime)s %(levelname)s [%(name)s] %(message)s"

def levels : List (String × Int) :=
  [("CRITICAL", 50), ("FATAL", 50), ("ERROR", 40), ("WARNING", 30), ("WARN", 30), ("INFO", 20), ("DEBUG", 10),
    ("NOTSET", 0)]

/-- The level of a name in capital letters; that of information for a name that is not known. -/
def levelOf (name : String) : Except LogError Int :=
  match levels.lookup name with
  | some level => .ok level
  | none =>
    if name = "BASIC_FORMAT" then .error (.unknownLevel plainFormat)
    else if name = "_STYLES" then .error .styles
    else .ok 20

/-- The name of the level that is asked for: the given one, or that of the settings; debugging goes before both. -/
def levelName (s : Settings) (given : Option String) : String :=
  if s.debug then "DEBUG" else Text.upper ((given? given).getD s.logLevel)

def configure (state : LogState) (s : Settings) (given : Option String) : LogState × Option LogError :=
  if state.configured then (state, none)
  else match levelOf (levelName s given) with
    | .ok level => (⟨true, level⟩, none)
    | .error e => (⟨true, state.level⟩, some e)

end LogState

end BlockRules
