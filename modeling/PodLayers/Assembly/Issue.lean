import PodLayers.Layer.Origin
import PodLayers.Settings.Basic
import PodLayers.Settings.Fault

/-!
# Targets and what can go wrong

Issues met while layers are gathered are collected: one stands for itself, several are reported together
under the target.
-/

namespace PodLayers

/-- The workload that is composed, by namespace and name. -/
structure Target where
  namespaceName : String
  name : String
deriving DecidableEq, Repr

def Target.describe (target : Target) : String := target.namespaceName ++ "/" ++ target.name

inductive Issue
  /-- User input that does not have the shape of its slot. -/
  | malformed (slot : String) (detail : String)
  | unknownPreset (key : PresetKey)
  | conflict (clash : Clash)
  | settings (fault : SettingsFault)
  | invalidSetting (key : String) (detail : String)
  | several (target : Target) (issues : List Issue)

namespace Issue

mutual

def message : Issue → String
  | .malformed slot detail => "Malformed override for '" ++ slot ++ "': " ++ detail
  | .unknownPreset key => "Unknown preset key '" ++ key ++ "'"
  | .conflict clash =>
    "Conflicting identity for '" ++ clash.slot ++ "': '" ++ clash.lower
      ++ "' cannot be replaced by '" ++ clash.higher ++ "'"
  | .settings fault => "Failed to load composer settings: " ++ fault.message
  | .invalidSetting key detail => "Invalid setting '" ++ key ++ "': " ++ detail
  | .several target issues =>
    "composing '" ++ target.describe ++ "' failed with " ++ toString issues.length ++ " errors:"
      ++ messages issues

/-- One line for each issue. -/
def messages : List Issue → String
  | [] => ""
  | issue :: rest => "\n  - " ++ issue.message ++ messages rest

end

/-- The text that a loader of settings shows for an issue: its own faults without their heading. -/
def settingsText : Issue → String
  | .settings fault => fault.message
  | issue => issue.message

def combine (target : Target) : List Issue → Option Issue
  | [] => none
  | [issue] => some issue
  | issues => some (.several target issues)

def rootSlot : String := "<root>"

def varsSlot : String := "vars"

def ofProblem (problem : SettingsProblem) : Issue := .invalidSetting problem.key problem.detail

end Issue

end PodLayers
