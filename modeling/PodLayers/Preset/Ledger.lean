import PodLayers.Preset.Basic

/-!
# Which presets have been applied

A ledger knows a set of preset keys and records the pairs of target and key that have been applied, so
that a preset shared by several others contributes once. Both sets are kept as strictly increasing lists.
-/

namespace PodLayers

namespace Target

def before (a b : Target) : Bool :=
  a.namespaceName < b.namespaceName || (a.namespaceName == b.namespaceName && a.name < b.name)

end Target

/-- A preset applied to a target. -/
abbrev Application := Target × PresetKey

def Application.before (a b : Application) : Bool :=
  a.1.before b.1 || (a.1 == b.1 && a.2 < b.2)

/-- Puts an element into an increasing list, unless it is there. -/
def insertInOrder {α : Type} [DecidableEq α] (before : α → α → Bool) (a : α) : List α → List α
  | [] => [a]
  | b :: rest =>
    if a = b then b :: rest
    else if before a b then a :: b :: rest
    else b :: insertInOrder before a rest

structure Ledger where
  known : List PresetKey
  applied : List Application
deriving DecidableEq, Repr

/-- How the request for a preset ends. -/
inductive Turn (α : Type)
  /-- The key is not known. -/
  | unknown
  /-- The preset has been applied to the target before. -/
  | repeated
  /-- The contribution failed, and nothing was recorded. -/
  | failed (issue : Issue)
  | granted (contribution : α)

namespace Ledger

/-- A ledger of known keys, with nothing applied. -/
def ofKeys (keys : List PresetKey) : Ledger where
  known := keys.foldl (fun known key => insertInOrder (fun a b => decide (a < b)) key known) []
  applied := []

def isKnown (ledger : Ledger) (key : PresetKey) : Bool := ledger.known.contains key

def isApplied (ledger : Ledger) (target : Target) (key : PresetKey) : Bool :=
  ledger.applied.contains (target, key)

def record (ledger : Ledger) (target : Target) (key : PresetKey) : Ledger :=
  { ledger with applied := insertInOrder Application.before (target, key) ledger.applied }

/-- Forgets what has been applied. -/
def clear (ledger : Ledger) : Ledger := { ledger with applied := [] }

/-- Asks for a preset whose contribution is an action. The action is run only when the key is known and has
not been recorded for the target, and the preset is recorded only when the action succeeds. -/
def claimBy {m : Type → Type} [Monad m] {α : Type} (ledger : Ledger) (target : Target) (key : PresetKey)
    (contribute : m (Except Issue α)) : m (Turn α × Ledger) :=
  if !ledger.isKnown key then pure (.unknown, ledger)
  else if ledger.isApplied target key then pure (.repeated, ledger)
  else do
    match ← contribute with
    | .error issue => pure (.failed issue, ledger)
    | .ok a => pure (.granted a, ledger.record target key)

/-- Asks for a preset when what comes of its contribution is at hand. -/
def claim {α : Type} (ledger : Ledger) (target : Target) (key : PresetKey) (attempt : Except Issue α) :
    Turn α × Ledger :=
  Id.run (ledger.claimBy target key (pure attempt))

end Ledger

def Catalog.ledger (catalog : Catalog) : Ledger := .ofKeys catalog.keys

end PodLayers
