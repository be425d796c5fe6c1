import PodLayers.Assembly.Issue
import PodLayers.Json.Reader
import PodLayers.Value.Document
import PodLayers.Yaml.Reader

/-!
# Input written by the user

An override of the pod is a template, or a value that is read as one when the composition runs. Where it
cannot be read, the issue names the slot to blame: the metadata, else the first list of the specification
that is malformed, narrowed to its first malformed entry, else the specification as a whole. A document
of the user is always a mapping.
-/

namespace PodLayers

inductive Override
  | typed (pod : PodTemplate)
  | raw (value : Value)

namespace Override

/-- Whether a part of a value does not fit the field it fills. -/
def rejects {α : Type} (read : Reader Value α) (node : Value) : Bool :=
  match read node with
  | .ok _ => false
  | .error _ => true

/-- How an entry of a list is named in a slot. -/
def entryName (entry : Value) : String := ((entry.get? "name").bind Value.text?).getD "?"

/-- The slot of an entry of a section. -/
def entrySlot (sect : String) (entry : Value) : String :=
  "spec." ++ sect ++ "[" ++ entryName entry ++ "]"

/-- The slot to blame in a section of the specification; none where the section can be read. -/
def blameSection {α : Type} [Named α] (read : Reader Value α) (slot : Value → String) (spec : Value)
    (sect : String) : Option String :=
  match spec.get? sect with
  | none => none
  | some list =>
    if rejects (NamedList.read read) list then
      match list.items.find? (rejects read) with
      | some entry => some (slot entry)
      | none => some ("spec." ++ sect)
    else none

/-- The slot of a malformed container, narrowed to its resources where these are malformed. -/
def containerSlot (sect : String) (entry : Value) : String :=
  if (entry.get? "resources").any (rejects (Resources.record.read (ν := Value))) then
    entrySlot sect entry ++ ".resources"
  else entrySlot sect entry

def blameContainers (spec : Value) (sect : String) : Option String :=
  blameSection Container.record.read (containerSlot sect) spec sect

def blameVolumes (spec : Value) : Option String :=
  blameSection Volume.record.read (entrySlot "volumes") spec "volumes"

/-- The slot to blame for a mapping that is not a template. -/
def blame (value : Value) : String :=
  if (value.get? "metadata").any (rejects Metadata.record.read) then "metadata"
  else
    match value.get? "spec" with
    | none => Issue.rootSlot
    | some spec =>
      (blameContainers spec "initContainers"
        |>.or (blameContainers spec "containers")
        |>.or (blameVolumes spec)).getD "spec"

/-- A template read from a value. -/
def decode (value : Value) : Except Issue PodTemplate :=
  if !value.isMapping then
    .error (.malformed Issue.rootSlot ("expected a mapping, found " ++ value.kindName))
  else
    match PodTemplate.record.read value with
    | .ok pod => .ok pod
    | .error fault => .error (.malformed (blame value) fault.message)

/-- The template that the override stands for. -/
def pod : Override → Except Issue PodTemplate
  | .typed pod => .ok pod
  | .raw value => decode value

def ofJson (text : String) : Except Issue Override :=
  match Json.read text with
  | .ok value => .ok (.raw value)
  | .error fault => .error (.malformed Issue.rootSlot fault.message)

def ofYaml (text : String) : Except Issue Override :=
  match Yaml.read text with
  | .ok value => .ok (.raw value)
  | .error fault => .error (.malformed Issue.rootSlot fault.message)

end Override

/-- The user's document. -/
structure Vars where
  document : Value

namespace Vars

def ofValue (value : Value) : Except Issue Vars :=
  if value.isMapping then .ok ⟨value⟩
  else .error (.malformed Issue.varsSlot ("expected a mapping, found " ++ value.kindName))

def ofJson (text : String) : Except Issue Vars :=
  match Json.read text with
  | .ok value => ofValue value
  | .error fault => .error (.malformed Issue.varsSlot fault.message)

def ofYaml (text : String) : Except Issue Vars :=
  match Yaml.read text with
  | .ok value => ofValue value
  | .error fault => .error (.malformed Issue.varsSlot fault.message)

end Vars

end PodLayers
