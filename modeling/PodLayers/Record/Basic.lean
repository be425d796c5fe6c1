import PodLayers.Text.Quoted
import PodLayers.Value.Entries

/-!
# Reading records

A record is read from a mapping, entry by entry in key order, or from a list, field by field in the order
of declaration. The first problem met is the fault, and it carries the path of keys that leads to it. The
readers do not depend on one type of tree: `Readable` says what they need to see of it.
-/

namespace PodLayers

/-- What a reader sees of a node. -/
inductive Sight (ν : Type)
  | null
  | bool (b : Bool)
  | whole (i : Int)
  | text (s : String)
  | list (items : List ν)
  | mapping (entries : List (String × ν))
  /-- A scalar that no field takes. -/
  | other

inductive Cause (ν : Type)
  | wrongType (found : ν) (expected : String)
  | wrongValue (found : ν) (expected : String)
  | unknownField (name : String) (known : List String)
  | unknownVariant (name : String) (known : List String)
  | missingField (name : String)
  /-- A list of items ends in front of a field that has no default. -/
  | tooShort (count : Nat) (title : String) (fields : Nat)
  | tooLong (count : Nat)
  /-- A mapping that should name one variant has no entry, or too many. -/
  | notOneVariant (found : ν)
  | rejected (detail : String)
deriving DecidableEq, Repr

structure Fault (ν : Type) where
  path : List String
  cause : Cause ν
deriving DecidableEq, Repr

/-- A reader of a node. -/
abbrev Reader (ν α : Type) := ν → Except (Fault ν) α

def fail {ν α : Type} (cause : Cause ν) : Except (Fault ν) α := .error ⟨[], cause⟩

/-- A fault below a key. -/
def below {ν α : Type} (key : String) : Except (Fault ν) α → Except (Fault ν) α
  | .ok a => .ok a
  | .error fault => .error { fault with path := key :: fault.path }

/-- Trees that records can be read from. -/
class Readable (ν : Type) where
  sight : ν → Sight ν
  /-- The member of a table of variants that a node names; the title is that of the type. -/
  variant : {α : Type} → (title : String) → (table : List (String × α)) → Reader ν α
  /-- Whether a list may have more items than the record has fields. -/
  allowsSurplus : Bool

/-- A field of a record: how its value changes a draft of the record. -/
structure Field (ν ρ : Type) where
  name : String
  required : Bool
  put : ν → ρ → Except (Fault ν) ρ

namespace Field

variable {ν ρ α : Type}

def ofReader (required : Bool) (name : String) (read : Reader ν α) (set : α → ρ → ρ) : Field ν ρ where
  name := name
  required := required
  put node draft := (read node).map fun a => set a draft

/-- A field that must be present. -/
def needed (name : String) (read : Reader ν α) (set : α → ρ → ρ) : Field ν ρ :=
  ofReader true name read set

/-- A field that keeps its value of the blank record when absent. -/
def defaulted (name : String) (read : Reader ν α) (set : α → ρ → ρ) : Field ν ρ :=
  ofReader false name read set

end Field

/-- The fields of a record type, in the order of declaration, and the record without any of them. -/
structure Record (ν ρ : Type) where
  title : String
  blank : ρ
  fields : List (Field ν ρ)

namespace Record

variable {ν ρ : Type}

def names (record : Record ν ρ) : List String := record.fields.map Field.name

def field? (record : Record ν ρ) (name : String) : Option (Field ν ρ) :=
  record.fields.find? fun field => field.name == name

/-- The draft after one entry of a mapping. -/
def visit (record : Record ν ρ) (draft : ρ) (entry : String × ν) : Except (Fault ν) ρ :=
  match record.field? entry.1 with
  | none => below entry.1 (fail (.unknownField entry.1 record.names))
  | some field => below entry.1 (field.put entry.2 draft)

/-- The first field that must be present and is not. -/
def missing? (record : Record ν ρ) (entries : List (String × ν)) : Option (Field ν ρ) :=
  record.fields.find? fun field => field.required && (Entries.find? field.name entries).isNone

def ofEntries (record : Record ν ρ) (entries : List (String × ν)) : Except (Fault ν) ρ := do
  let draft ← entries.foldlM record.visit record.blank
  match record.missing? entries with
  | some field => fail (.missingField field.name)
  | none => return draft

/-- The draft after the items of a list, from the field at `index` on. -/
def fill (record : Record ν ρ) (index : Nat) : List (Field ν ρ) → List ν → ρ → Except (Fault ν) ρ
  | [], _, draft => .ok draft
  | field :: fields, [], draft =>
    if field.required then fail (.tooShort index record.title record.fields.length)
    else record.fill (index + 1) fields [] draft
  | field :: fields, item :: items, draft => do
    record.fill (index + 1) fields items (← below (toString index) (field.put item draft))

def ofItems [Readable ν] (record : Record ν ρ) (items : List ν) : Except (Fault ν) ρ := do
  let draft ← record.fill 0 record.fields items record.blank
  if record.fields.length < items.length && !Readable.allowsSurplus ν then fail (.tooLong items.length)
  else return draft

def read [Readable ν] (record : Record ν ρ) : Reader ν ρ := fun node =>
  match Readable.sight node with
  | .mapping entries => record.ofEntries entries
  | .list items => record.ofItems items
  | _ => fail (.wrongType node ("struct " ++ record.title))

end Record

namespace Read

variable {ν α : Type} [Readable ν]

def text : Reader ν String := fun node =>
  match Readable.sight node with
  | .text s => .ok s
  | _ => fail (.wrongType node "a string")

def bool : Reader ν Bool := fun node =>
  match Readable.sight node with
  | .bool b => .ok b
  | _ => fail (.wrongType node "a boolean")

/-- A whole number below a bound, named in messages. -/
def natural (bound : Nat) (expected : String) : Reader ν Nat := fun node =>
  match Readable.sight node with
  | .whole i => if 0 ≤ i ∧ i < bound then .ok i.toNat else fail (.wrongValue node expected)
  | _ => fail (.wrongType node expected)

def uint16 : Reader ν UInt16 := fun node => (natural UInt16.size "u16" node).map UInt16.ofNat

def uint32 : Reader ν UInt32 := fun node => (natural UInt32.size "u32" node).map UInt32.ofNat

/-- Null stands for an absent value. -/
def optional (read : Reader ν α) : Reader ν (Option α) := fun node =>
  match Readable.sight node with
  | .null => .ok none
  | _ => (read node).map some

/-- The items in their order, the first one at `index`. -/
def items (read : Reader ν α) (index : Nat) : List ν → Except (Fault ν) (List α)
  | [] => .ok []
  | item :: rest => do
    let a ← below (toString index) (read item)
    return a :: (← items read (index + 1) rest)

def list (read : Reader ν α) : Reader ν (List α) := fun node =>
  match Readable.sight node with
  | .list nodes => items read 0 nodes
  | _ => fail (.wrongType node "a sequence")

/-- The values of a mapping in its order. -/
def entries (read : Reader ν α) : List (String × ν) → Except (Fault ν) (List (String × α))
  | [] => .ok []
  | (key, node) :: rest => do
    let a ← below key (read node)
    return (key, a) :: (← entries read rest)

def map (read : Reader ν α) : Reader ν (SortedMap α) := fun node =>
  match Readable.sight node with
  | .mapping nodes => (entries read nodes).map SortedMap.ofList
  | _ => fail (.wrongType node "a map")

/-- A text that a check turns into a value; the check says what is wrong. -/
def checked (check : String → Except String α) : Reader ν α := fun node => do
  match check (← text node) with
  | .ok a => return a
  | .error detail => fail (.rejected detail)

end Read

end PodLayers
