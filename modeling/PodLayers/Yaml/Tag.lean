/-!
# YAML tags

A tag is written as a handle and a suffix. The handle stands for a prefix, which the directives of the
document may declare. Local tags and those of the core prefix have a meaning where their suffix names a
type; any other tag only tells two keys apart.
-/

namespace PodLayers.Yaml

inductive Tag
  | null
  /-- The text stands for bytes. -/
  | binary
  | text
  /-- A type that is no type of a scalar here. -/
  | typed
  | other
deriving DecidableEq, Repr

namespace Tag

def corePrefix : String := "tag:yaml.org,2002:"

/-- The types that a text of their own cannot show. -/
def typeNames : List String :=
  ["int", "float", "bool", "seq", "map", "timestamp", "time", "degrees", "radians"]

def ofParts (front suffix : String) : Tag :=
  if front ≠ "!" ∧ front ≠ corePrefix then .other
  else if suffix = "null" then .null
  else if suffix = "binary" then .binary
  else if suffix = "str" then .text
  else if typeNames.contains suffix then .typed
  else .other

/-- Whether a handle stands between two marks, so that it must be declared. -/
def isNamed (handle : String) : Bool :=
  2 ≤ handle.length && handle.front == '!' && handle.back == '!'

/-- The tag that a handle and a suffix stand for, if the handle is known. -/
def resolve? (declared : Option (String × String)) (handle suffix : String) : Option Tag :=
  match declared.filter (·.1 == handle) with
  | some (_, front) => some (ofParts front suffix)
  | none =>
    if handle = "!!" then some (ofParts corePrefix suffix)
    else if isNamed handle then none
    else some (ofParts handle suffix)

end Tag

end PodLayers.Yaml
