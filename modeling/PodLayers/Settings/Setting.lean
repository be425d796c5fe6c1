import PodLayers.Number.Shortest
import PodLayers.Record.Basic
import PodLayers.Value.Basic

/-!
# Trees of settings

Settings are gathered from several sources as trees in which every node remembers its source. Laying one
tree over another goes into tables on both sides; anything else is replaced. A table that takes part
belongs to the later source, its untouched entries to the earlier one.
-/

namespace PodLayers

/-- Where a setting was written. -/
inductive Source
  | defaults
  | file (name : String)
  | environment
deriving DecidableEq, Repr, Inhabited

inductive Setting
  | nothing (source : Source)
  | text (source : Source) (s : String)
  | char (source : Source) (c : Char)
  | bool (source : Source) (b : Bool)
  | natural (source : Source) (n : Nat)
  | signed (source : Source) (i : Int)
  | fraction (source : Source) (x : Extended)
  | list (source : Source) (items : List Setting)
  | table (source : Source) (entries : List (String × Setting))
deriving Repr, Inhabited

namespace Setting

def source : Setting → Source
  | .nothing s | .text s _ | .char s _ | .bool s _ | .natural s _ | .signed s _ | .fraction s _ | .list s _
  | .table s _ => s

mutual

def merge (lower : Setting) : Setting → Setting
  | .table source higher =>
    match lower with
    | .table _ entries => .table source (mergeEntries entries higher)
    | _ => .table source higher
  | higher => higher

def mergeEntries (target : List (String × Setting)) : List (String × Setting) → List (String × Setting)
  | [] => target
  | (key, higher) :: rest =>
    let merged := match Entries.find? key target with
      | some lower => lower.merge higher
      | none => higher
    mergeEntries (Entries.insert key merged target) rest

end

/-- A setting under a path of keys. -/
def nest (source : Source) (leaf : Setting) : List String → Setting
  | [] => leaf
  | key :: path => .table source [(key, nest source leaf path)]

/-- The node below a key, or at a position of a list. -/
def child? (setting : Setting) (key : String) : Option Setting :=
  match setting with
  | .table _ entries => Entries.find? key entries
  | .list _ items => items[key.toNat?.getD items.length]?
  | _ => none

def at? (setting : Setting) : List String → Option Setting
  | [] => some setting
  | key :: path => (setting.child? key).bind fun inner => inner.at? path

/-- The source of the deepest node on a path. -/
def sourceAt (setting : Setting) : List String → Source
  | [] => setting.source
  | key :: path =>
    match setting.child? key with
    | some inner => inner.sourceAt path
    | none => setting.source

def sight : Setting → Sight Setting
  | .nothing _ => .null
  | .text _ s => .text s
  | .char _ c => .text (String.singleton c)
  | .bool _ b => .bool b
  | .natural _ n => .whole n
  | .signed _ i => .whole i
  | .fraction _ _ => .other
  | .list _ items => .list items
  | .table _ entries => .mapping entries

def variantNamed {α : Type} (table : List (String × α)) (name : String) : Except (Fault Setting) α :=
  match Entries.find? name table with
  | some a => .ok a
  | none => fail (.unknownVariant name (Entries.keys table))

/-- A variant is named by a text, or by the first key of a table whose first value is nothing. -/
def variant {α : Type} (title : String) (table : List (String × α)) : Reader Setting α
  | .text _ name => variantNamed table name
  | .table source [] => fail (.wrongType (.table source []) "enum")
  | .table _ ((name, payload) :: _) =>
    below name do
      let a ← variantNamed table name
      match payload with
      | .nothing _ => return a
      | other => fail (.wrongType other "unit")
  | other => fail (.wrongType other ("enum " ++ title))

instance : Readable Setting where
  sight := sight
  variant := variant
  allowsSurplus := true

def description : Setting → String
  | .nothing _ => "unit"
  | .text _ s => "string " ++ Text.quoted s
  | .char _ c => "string " ++ Text.quoted (String.singleton c)
  | .bool _ b => "bool " ++ (if b then "true" else "false")
  | .natural _ n => "unsigned int " ++ Text.ticked (toString n)
  | .signed _ i => "signed int " ++ Text.ticked (toString i)
  | .fraction _ x => "float " ++ Text.ticked x.inMessage
  | .list _ _ => "sequence"
  | .table _ _ => "map"

mutual

/-- The settings that a value stands for. -/
def ofValue (source : Source) : Value → Setting
  | .null => .nothing source
  | .bool b => .bool source b
  | .number (.integer i) => if 0 ≤ i then .natural source i.toNat else .signed source i
  | .number (.float x) => .fraction source (.finite x)
  | .text s => .text source s
  | .list items => .list source (ofItems source items)
  | .mapping entries => .table source (ofEntries source entries)

def ofItems (source : Source) : List Value → List Setting
  | [] => []
  | v :: rest => ofValue source v :: ofItems source rest

def ofEntries (source : Source) : List (String × Value) → List (String × Setting)
  | [] => []
  | (key, v) :: rest => (key, ofValue source v) :: ofEntries source rest

end

end Setting

end PodLayers
