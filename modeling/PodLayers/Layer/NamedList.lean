import PodLayers.Layer.Origin
import PodLayers.Value.Entries

/-!
# Lists of named entries

Containers, volumes and volume mounts stand in lists in which each name occurs once. A `NamedList` files
every entry under the name it had when it was put in; `NamedList.Coherent` says that names are distinct and
still agree. The order is that of the first appearance of each name.
-/

namespace PodLayers

class Named (α : Type) where
  name : α → String

structure NamedList (α : Type) where
  entries : List (String × α)
deriving DecidableEq, Repr

/-- A name that occurs twice. -/
structure DuplicateName where
  name : String
deriving DecidableEq, Repr

def DuplicateName.message (duplicate : DuplicateName) : String :=
  "duplicate entry named `" ++ duplicate.name ++ "`"

namespace NamedList

variable {α : Type}

def empty : NamedList α := ⟨[]⟩

instance : Inhabited (NamedList α) := ⟨empty⟩

def isEmpty (list : NamedList α) : Bool := list.entries.isEmpty

def size (list : NamedList α) : Nat := list.entries.length

def keys (list : NamedList α) : List String := Entries.keys list.entries

def toList (list : NamedList α) : List α := list.entries.map Prod.snd

def get? (list : NamedList α) (key : String) : Option α := Entries.find? key list.entries

def contains (list : NamedList α) (key : String) : Bool := (list.get? key).isSome

/-- Changes every entry where it stands; the names under which they are filed stay. -/
def mapEntries (f : α → α) (list : NamedList α) : NamedList α :=
  ⟨list.entries.map fun entry => (entry.1, f entry.2)⟩

variable [Named α]

/-- Names are distinct and every entry is filed under its own. -/
def Coherent (list : NamedList α) : Prop :=
  list.keys.Nodup ∧ ∀ entry ∈ list.entries, entry.1 = Named.name entry.2

/-- Puts an entry at the end, unless its name is taken. Beside the outcome stands the list afterwards. -/
def tryInsert (list : NamedList α) (a : α) : Except DuplicateName Unit × NamedList α :=
  if list.contains (Named.name a) then (.error ⟨Named.name a⟩, list)
  else (.ok (), ⟨list.entries ++ [(Named.name a, a)]⟩)

def insertNew (list : NamedList α) (a : α) : Except DuplicateName (NamedList α) :=
  let (outcome, next) := list.tryInsert a
  outcome.map fun _ => next

/-- Puts an entry in the place of the one with its name, or at the end. -/
def set (list : NamedList α) (a : α) : NamedList α :=
  ⟨Entries.assign (Named.name a) a list.entries⟩

def ofList? (items : List α) : Except DuplicateName (NamedList α) :=
  items.foldlM insertNew empty

/-- The last entry of each name, at the place of the first. -/
def ofList (items : List α) : NamedList α := items.foldl set empty

/-- Lays one entry over the one with its name, or puts it at the end. -/
def overlayEntry [Layered α] (slot : Slot) (list : NamedList α) (a : α) : Merged (NamedList α) :=
  let key := Named.name a
  match list.get? key with
  | some existing =>
    (Layered.overlay (slot.entry key) existing a).map fun merged => ⟨Entries.assign key merged list.entries⟩
  | none => .done ⟨list.entries ++ [(key, a)]⟩

/-- Lays entries over a list, in their order. -/
def overlayAll [Layered α] (slot : Slot) : NamedList α → List α → Merged (NamedList α)
  | list, [] => .done list
  | list, a :: rest => (overlayEntry slot list a).andThen fun next => overlayAll slot next rest

instance [Layered α] : Layered (NamedList α) where
  overlay slot lower higher := overlayAll slot lower higher.toList

end NamedList

end PodLayers
