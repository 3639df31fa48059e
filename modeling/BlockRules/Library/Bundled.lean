import BlockRules.Library.Files

set_option autoImplicit false

/-!
# Bundled rules

The files of the rules that come with the library: routines of a day, with what has to be true before their last
step. They make up a directory, which is loaded like any other.
-/
namespace BlockRules.Bundled

def bathroomRoutine : List String :=
  [
    "# Once in the bathroom: wash, brush teeth and comb hair within 30 minutes.",
    "id: bathroom-routine",
    "name: Bathroom Routine Rule",
    "nodes:",
    "  - id: condition-1",
    "    type: condition",
    "    position: \x7bx: 250, y: 100\x7d",
    "    data:",
    "      label: in_bathroom == true",
    "      field: in_bathroom",
    "      operator: equals",
    "      value: \"true\"",
    "  - id: condition-2",
    "    type: condition",
    "    position: \x7bx: 250, y: 200\x7d",
    "    data:",
    "      label: bathroom_time <= 30",
    "      field: bathroom_time",
    "      operator: lessOrEqual",
    "      value: \"30\"",
    "  - id: action-1",
    "    type: action",
    "    position: \x7bx: 250, y: 300\x7d",
    "    data:",
    "      label: Complete bathroom routine",
    "edges:",
    "  - \x7bid: edge-1, source: condition-1, target: condition-2\x7d",
    "  - \x7bid: edge-2, source: condition-2, target: action-1\x7d",
    "alarmConfig:",
    "  audioEnabled: true",
    "  audioFrequency: 800",
    "  audioDuration: 300",
    "  audioVolume: 0.3",
    "  voiceEnabled: true",
    "  voiceRate: 0.9",
    "  voicePitch: 1.1",
    "  visualEnabled: true",
    "  visualDuration: 1500",
    "  notificationEnabled: true",
    "  alarmType: info"
  ]

def medicationReminder : List String :=
  [
    "# Take medication within one hour of waking up, but only after eating.",
    "id: medication-reminder",
    "name: Medication Safety Rule",
    "nodes:",
    "  - id: condition-1",
    "    type: condition",
    "    position: \x7bx: 250, y: 100\x7d",
    "    data:",
    "      label: wake_up == true",
    "      field: wake_up",
    "      operator: equals",
    "      value: \"true\"",
    "  - id: condition-2",
    "    type: condition",
    "    position: \x7bx: 250, y: 200\x7d",
    "    data:",
    "      label: time_since_wake <= 60",
    "      field: time_since_wake",
    "      operator: lessOrEqual",
    "      value: \"60\"",
    "  - id: condition-3",
    "    type: condition",
    "    position: \x7bx: 250, y: 300\x7d",
    "    data:",
    "      label: food_eaten == true",
    "      field: food_eaten",
    "      operator: equals",
    "      value: \"true\"",
    "  - id: action-1",
    "    type: action",
    "    position: \x7bx: 250, y: 400\x7d",
    "    data:",
    "      label: Take medication safely",
    "edges:",
    "  - \x7bid: edge-1, source: condition-1, target: condition-2\x7d",
    "  - \x7bid: edge-2, source: condition-2, target: condition-3\x7d",
    "  - \x7bid: edge-3, source: condition-3, target: action-1\x7d",
    "alarmConfig:",
    "  audioEnabled: true",
    "  audioFrequency: 600",
    "  audioDuration: 500",
    "  audioVolume: 0.5",
    "  voiceEnabled: true",
    "  voiceRate: 0.8",
    "  voicePitch: 1.2",
    "  visualEnabled: true",
    "  visualDuration: 2500",
    "  notificationEnabled: true",
    "  alarmType: critical"
  ]

def smartCooker : List String :=
  [
    "# The cooker may be switched on only once food is added AND the pot is placed,",
    "# for at most one hour.",
    "id: smart-cooker",
    "name: Smart Cooker Safety Rule",
    "nodes:",
    "  - id: condition-1",
    "    type: condition",
    "    position: \x7bx: 250, y: 100\x7d",
    "    data:",
    "      label: food_added == true",
    "      field: food_added",
    "      operator: equals",
    "      value: \"true\"",
    "  - id: condition-2",
    "    type: condition",
    "    position: \x7bx: 450, y: 100\x7d",
    "    data:",
    "      label: pot_placed == true",
    "      field: pot_placed",
    "      operator: equals",
    "      value: \"true\"",
    "  - id: operator-1",
    "    type: operator",
    "    position: \x7bx: 350, y: 200\x7d",
    "    data:",
    "      label: AND",
    "      operatorType: AND",
    "  - id: condition-3",
    "    type: condition",
    "    position: \x7bx: 350, y: 300\x7d",
    "    data:",
    "      label: cooker_time <= 60",
    "      field: cooker_time",
    "      operator: lessOrEqual",
    "      value: \"60\"",
    "  - id: action-1",
    "    type: action",
    "    position: \x7bx: 350, y: 400\x7d",
    "    data:",
    "      label: Allow cooker to switch ON",
    "edges:",
    "  - \x7bid: edge-1, source: condition-1, target: operator-1\x7d",
    "  - \x7bid: edge-2, source: condition-2, target: operator-1\x7d",
    "  - \x7bid: edge-3, source: operator-1, target: condition-3\x7d",
    "  - \x7bid: edge-4, source: condition-3, target: action-1\x7d",
    "alarmConfig:",
    "  audioEnabled: true",
    "  audioFrequency: 1000",
    "  audioDuration: 400",
    "  audioVolume: 0.4",
    "  voiceEnabled: true",
    "  voiceRate: 1.0",
    "  voicePitch: 1.0",
    "  visualEnabled: true",
    "  visualDuration: 2000",
    "  notificationEnabled: true",
    "  alarmType: warning"
  ]

def fileOf (lines : List String) : FileEntry := .file (lines.flatMap fun line => (line ++ "\n").toUTF8.toList)

def files : Files where
  root := "rules"
  entries :=
    [(["bathroom-routine.yaml"], fileOf bathroomRoutine), (["medication-reminder.yaml"], fileOf medicationReminder),
      (["smart-cooker.yaml"], fileOf smartCooker)]

def directory : Path := ⟨[]⟩

end BlockRules.Bundled
