/-!
# Layers and slots

A layer comes from the platform's defaults, from an add-on or from the user. A slot is a place in a pod
as seen by one layer: the layer's origin and the path of the place. Values that identify something are
replaced by the user only; for any other layer a different value is a clash.
-/

namespace PodLayers

abbrev PresetKey := String

inductive Origin
  | defaults
  | addon (key : PresetKey)
  | user
deriving DecidableEq, Repr, Inhabited

namespace Origin

/-- Whether the layer may replace identities. -/
def mayReplace : Origin → Bool
  | .user => true
  | _ => false

def describe : Origin → String
  | .defaults => "defaults"
  | .addon key => "addon:" ++ key
  | .user => "user"

end Origin

structure Slot where
  origin : Origin
  path : String
deriving DecidableEq, Repr

/-- Two values of an identity that only the user could have reconciled. -/
structure Clash where
  slot : String
  lower : String
  higher : String
deriving DecidableEq, Repr

namespace Slot

def root (origin : Origin) : Slot := ⟨origin, ""⟩

def field (slot : Slot) (name : String) : Slot :=
  { slot with path := if slot.path = "" then name else slot.path ++ "." ++ name }

def entry (slot : Slot) (key : String) : Slot :=
  { slot with path := slot.path ++ "[" ++ key ++ "]" }

/-- The clash of replacing one identity by another; none for the user. -/
def replacing (slot : Slot) (lower higher : String) : Option Clash :=
  if slot.origin.mayReplace then none else some ⟨slot.path, lower, higher⟩

end Slot

/-- What laying one value over another has reached, and the clash that stopped it, if any. -/
structure Merged (α : Type) where
  value : α
  clash : Option Clash
deriving DecidableEq, Repr

namespace Merged

variable {α β : Type}

def done (value : α) : Merged α := ⟨value, none⟩

def map (f : α → β) (m : Merged α) : Merged β := ⟨f m.value, m.clash⟩

/-- Goes on with what has been reached, unless a clash has stopped it. -/
def andThen (m : Merged α) (next : α → Merged α) : Merged α :=
  if m.clash.isSome then m else next m.value

def toExcept (m : Merged α) : Except Clash α :=
  match m.clash with
  | some clash => .error clash
  | none => .ok m.value

end Merged

class Layered (α : Type) where
  overlay : Slot → (lower higher : α) → Merged α

/-! ## How one field combines -/

namespace Rule

variable {α : Type}

/-- The higher value where there is one. -/
def ifSet (lower higher : Option α) : Option α := higher.or lower

/-- The higher value where there is one that counts as set. -/
def ifCounts (counts : α → Bool) (lower higher : Option α) : Option α :=
  if higher.any counts then higher else lower

/-- The higher list as a whole, unless it is empty. -/
def ifNonempty (lower higher : List α) : List α :=
  if higher.isEmpty then lower else higher

/-- The higher identity where there is one; replacing a different one must be allowed. -/
def identity (slot : Slot) (lower higher : Option String) : Merged (Option String) :=
  match higher with
  | none => .done lower
  | some value =>
    match lower with
    | none => .done (some value)
    | some existing =>
      if existing = value then .done (some value)
      else
        match slot.replacing existing value with
        | some clash => ⟨lower, some clash⟩
        | none => .done (some value)

end Rule

end PodLayers
