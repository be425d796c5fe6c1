import PodLayers.Record.Basic
import PodLayers.Value.Printer

/-!
# Records in values

A variant is named by a text, or by a mapping with that one key and null. Lists must not have more items
than the record has fields.
-/

namespace PodLayers

namespace Value

def sight : Value → Sight Value
  | .null => .null
  | .bool b => .bool b
  | .number (.integer i) => .whole i
  | .number (.float _) => .other
  | .text s => .text s
  | .list items => .list items
  | .mapping entries => .mapping entries

/-- The member of a table with a given name. -/
def variantNamed {α : Type} (table : List (String × α)) (name : String) : Except (Fault Value) α :=
  match Entries.find? name table with
  | some a => .ok a
  | none => fail (.unknownVariant name (Entries.keys table))

def variant {α : Type} (_title : String) (table : List (String × α)) : Reader Value α
  | .text name => variantNamed table name
  | .mapping [(name, payload)] => do
    let a ← variantNamed table name
    match payload with
    | .null => return a
    | other => fail (.wrongType other "unit")
  | .mapping entries => fail (.notOneVariant (.mapping entries))
  | other => fail (.wrongType other "string or map")

instance : Readable Value where
  sight := sight
  variant := variant
  allowsSurplus := false

end Value

def Cause.message : Cause Value → String
  | .wrongType found expected => "invalid type: " ++ found.description ++ ", expected " ++ expected
  | .wrongValue found expected => "invalid value: " ++ found.description ++ ", expected " ++ expected
  | .unknownField name known => "unknown field " ++ Text.ticked name ++ ", expected " ++ Text.oneOf known
  | .unknownVariant name known =>
    "unknown variant " ++ Text.ticked name ++ ", expected " ++ Text.oneOf known
  | .missingField name => "missing field " ++ Text.ticked name
  | .tooShort count title fields =>
    "invalid length " ++ toString count ++ ", expected struct " ++ title ++ " with " ++ toString fields
      ++ (if fields = 1 then " element" else " elements")
  | .tooLong count => "invalid length " ++ toString count ++ ", expected fewer elements in array"
  | .notOneVariant found =>
    "invalid value: " ++ found.description ++ ", expected map with a single key"
  | .rejected detail => detail

def Fault.message (fault : Fault Value) : String := fault.cause.message

end PodLayers
