import PodLayers.Assembly.Layer
import PodLayers.Assembly.UserInput
import PodLayers.Preset.Builtin
import PodLayers.Preset.Ledger

/-!
# Composing a workload

A platform is its settings and its catalog. It gathers the default layer, the layers of the presets that
are turned on or selected, each after the presets it requires, and the layer of the user; then it stacks
them. Issues do not stop the gathering. A composition that fails leaves the caller's ledger as it was.
-/

namespace PodLayers

structure Request where
  identity : Identity
  flags : Flags := {}
  selected : List PresetKey := []
  userOverride : Option Override := none
  vars : Option Vars := none

structure Gathering where
  ledger : Ledger
  layers : List Layer
  issues : List Issue

namespace Gathering

def addIssue (state : Gathering) (issue : Issue) : Gathering :=
  { state with issues := state.issues ++ [issue] }

def addLayer (state : Gathering) (layer : Layer) : Gathering :=
  { state with layers := state.layers ++ [layer] }

def request (catalog : Catalog) (ctx : Context) (state : Gathering) (key : PresetKey) : Gathering :=
  match catalog.find? key with
  | none => state.addIssue (.unknownPreset key)
  | some preset =>
    let (turn, ledger) := state.ledger.claim ctx.identity.target key (preset.contribute ctx)
    let state := { state with ledger }
    match turn with
    | .unknown => state.addIssue (.unknownPreset key)
    | .repeated => state
    | .failed issue => state.addIssue issue
    | .granted fragment => state.addLayer ⟨.addon key, fragment⟩

end Gathering

/-- The layer of the user; none without an override and a document. -/
def userFragment (userOverride : Option Override) (vars : Option Vars) : Except Issue (Option Fragment) :=
  match userOverride, vars with
  | none, none => .ok none
  | none, some vars => .ok (some { document := some vars.document })
  | some userOverride, vars =>
    userOverride.pod.map fun pod => some { pod, document := vars.map Vars.document }

structure Platform where
  settings : Settings := {}
  catalog : Catalog := .builtin

namespace Platform

/-- The presets that a request turns on or selects, in catalog order. -/
def chosen (platform : Platform) (request : Request) : List Preset :=
  platform.catalog.presets.filter fun preset =>
    preset.isActive request.flags || request.selected.contains preset.key

/-- The keys that are asked for: for each chosen preset the ones it requires and then its own. -/
def asked (platform : Platform) (request : Request) : List PresetKey :=
  (platform.chosen request).flatMap fun preset => preset.requires ++ [preset.key]

def unknownSelections (platform : Platform) (request : Request) : List PresetKey :=
  request.selected.filter fun key => !platform.catalog.contains key

def context (platform : Platform) (request : Request) : Context :=
  ⟨request.identity, request.flags, platform.settings⟩

/-- The state before any preset is asked for. -/
def start (platform : Platform) (request : Request) (ledger : Ledger) : Gathering where
  ledger := ledger
  layers := [⟨.defaults, Defaults.fragment platform.settings request.identity request.flags⟩]
  issues := (platform.unknownSelections request).map Issue.unknownPreset

/-- Gathers the layers of a request. The presets applied are recorded in the ledger. -/
def gather (platform : Platform) (request : Request) (ledger : Ledger) : Composition × Ledger :=
  let presets := (platform.asked request).foldl
    (Gathering.request platform.catalog (platform.context request)) (platform.start request ledger)
  let state := match userFragment request.userOverride request.vars with
    | .ok (some fragment) => presets.addLayer ⟨.user, fragment⟩
    | .ok none => presets
    | .error issue => presets.addIssue issue
  (⟨request.identity.target, state.layers, state.issues⟩, state.ledger)

/-- Composes a request with a ledger of one's own. What was applied before does not count, and the ledger
changes only when the composition succeeds. -/
def assembleWith (platform : Platform) (request : Request) (ledger : Ledger) :
    Except Issue Assembled × Ledger :=
  let (composition, after) := platform.gather request ledger.clear
  match composition.outcome fun target layers =>
      assembleLayers target platform.settings.workload.containerName layers with
  | .ok assembled => (.ok assembled, after)
  | .error issue => (.error issue, ledger)

def assemble (platform : Platform) (request : Request) : Except Issue Assembled :=
  (platform.assembleWith request platform.catalog.ledger).1

end Platform

end PodLayers
