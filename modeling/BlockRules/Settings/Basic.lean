import BlockRules.Rule.Block
import BlockRules.Schema.Field
import BlockRules.Settings.Dotenv
import BlockRules.Text.Lines
import BlockRules.Text.LowerCase

set_option autoImplicit false

namespace BlockRules
open Checked

structure Settings where
  appName : String
  debug : Bool
  corsOrigins : String
  logLevel : String
  /-- The directory of the stored rules; none for those that come with the program. -/
  rulesDirectory : Option String
  /-- Seconds between two evaluations of a monitor. -/
  monitorInterval : Binary64
  /-- Seconds for which the use of the processor is measured. -/
  processorInterval : Binary64

namespace Settings

def default : Settings where
  appName := "Rule Canvas"
  debug := false
  corsOrigins := "*"
  logLevel := "INFO"
  rulesDirectory := none
  monitorInterval := .ofDecimal false 2 0
  processorInterval := .ofDecimal false 1 (-1)

def names : List String :=
  ["app_name", "debug", "cors_origins", "log_level", "rules_dir", "monitor_interval_seconds", "cpu_sample_interval"]

abbrev Variables := Keyed String (Option String)

def lowerCase (s : List Char) : String := String.ofList (Text.lower s)

/-- Of names that differ in case only, the last one counts. -/
def ofEnvironment (env : List (String × String)) : Variables :=
  .ofPairs (env.map fun (name, value) => (lowerCase name.toList, some value))

def ofFile (env : List (String × String)) (text : String) : Variables :=
  let given := env.map fun (name, value) => (name.toList, value.toList)
  let found := Dotenv.definitions given (Text.withLineFeeds (Text.withoutMark text.toList))
  .ofPairs (found.map fun (name, value) => (lowerCase name, value.map String.ofList))

def value? (places : List Variables) (name : String) : Option String :=
  places.findSome? fun place => (place.get? name).join

def setting {α : Type} (name : String) (absent : α) (read : Value → Checked α) (places : List Variables) :
    Checked α :=
  match value? places name with
  | some value => at_ (.field name) (read (.text value))
  | none => .ok absent

/-- The names in a file that are no settings and have a value that is not empty. -/
def unknownNames (file : Variables) : List String :=
  Keyed.keys (file.filter fun v => !names.contains v.1 && (given? v.2).isSome)

def checkUnknown (file : Variables) : Checked Unit :=
  match unknownNames file with
  | [] => .ok ()
  | unknown => .error (unknown.map fun name => ⟨.extraForbidden, [.field name]⟩)

def read (env : List (String × String)) (file : Option String) : Checked Settings :=
  let inFile := (file.map (ofFile env)).getD []
  let places := [ofEnvironment env, inFile]
  app (app (app (app (app (app (app (app (.ok fun appName debug corsOrigins logLevel rulesDirectory monitorInterval
      processorInterval _ =>
        ⟨appName, debug, corsOrigins, logLevel, rulesDirectory, monitorInterval, processorInterval⟩)
    (setting "app_name" default.appName text places))
    (setting "debug" default.debug bool places))
    (setting "cors_origins" default.corsOrigins text places))
    (setting "log_level" default.logLevel text places))
    (setting "rules_dir" default.rulesDirectory (fun v => (text v).map some) places))
    (setting "monitor_interval_seconds" default.monitorInterval number places))
    (setting "cpu_sample_interval" default.processorInterval number places))
    (checkUnknown inFile)

end Settings

end BlockRules
