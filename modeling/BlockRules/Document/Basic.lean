import BlockRules.Rule.Graph

set_option autoImplicit false

namespace BlockRules

inductive AlarmType where
  | critical
  | warning
  | info
  deriving DecidableEq, Inhabited

namespace AlarmType

def all : List AlarmType := [critical, warning, info]

def name : AlarmType → String
  | critical => "critical"
  | warning => "warning"
  | info => "info"

def ofName? (s : String) : Option AlarmType := all.find? fun t => t.name == s

theorem ofName?_name (t : AlarmType) : ofName? t.name = some t := by
  cases t <;> decide

end AlarmType

structure AlarmSettings where
  audioEnabled : Bool
  audioFrequency : Binary64
  audioDuration : Binary64
  audioVolume : Binary64
  voiceEnabled : Bool
  voiceRate : Binary64
  voicePitch : Binary64
  visualEnabled : Bool
  visualDuration : Binary64
  notificationEnabled : Bool
  alarmType : AlarmType
  deriving DecidableEq

namespace AlarmSettings

def default : AlarmSettings where
  audioEnabled := true
  audioFrequency := .ofDecimal false 1000 0
  audioDuration := .ofDecimal false 300 0
  audioVolume := .ofDecimal false 3 (-1)
  voiceEnabled := true
  voiceRate := .ofDecimal false 1 0
  voicePitch := .ofDecimal false 1 0
  visualEnabled := true
  visualDuration := .ofDecimal false 1700 0
  notificationEnabled := true
  alarmType := .critical

end AlarmSettings

structure Document extends Graph where
  id : Option String
  name : String
  alarm : Option AlarmSettings
  naturalLanguage : Option String
  isValid : Bool
  createdAt : Option Moment
  updatedAt : Option Moment
  userId : Option String

namespace Document

def ofGraph (g : Graph) : Document where
  toGraph := g
  id := none
  name := ""
  alarm := none
  naturalLanguage := none
  isValid := false
  createdAt := none
  updatedAt := none
  userId := none

end Document

end BlockRules
