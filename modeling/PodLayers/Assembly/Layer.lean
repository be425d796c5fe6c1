import PodLayers.Preset.Basic

/-!
# Stacks of layers

Layers are laid over each other from the empty template and the empty document upwards. Then the names of
init containers and containers must differ, and init containers without an image take that of the primary
container.
-/

namespace PodLayers

structure Layer where
  origin : Origin
  fragment : Fragment

/-- Which layers went into a result, lowest first. -/
structure Trail where
  target : Target
  origins : List Origin
deriving DecidableEq, Repr

namespace Trail

def presetOf? : Origin → Option PresetKey
  | .addon key => some key
  | _ => none

def appliedPresets (trail : Trail) : List PresetKey := trail.origins.filterMap presetOf?

def wasApplied (trail : Trail) (key : PresetKey) : Bool := trail.appliedPresets.contains key

def hasUserLayer (trail : Trail) : Bool := trail.origins.contains .user

end Trail

structure Assembled where
  pod : PodTemplate
  document : Value
  trail : Trail

def PodTemplate.withLayer (pod : PodTemplate) (layer : Layer) : Except Clash PodTemplate :=
  (pod.overlay (Slot.root layer.origin) layer.fragment.pod).toExcept

/-- The pod of a stack, before its names are checked. -/
def stackPods (layers : List Layer) : Except Clash PodTemplate :=
  layers.foldlM PodTemplate.withLayer {}

/-- The document of a stack. -/
def stackDocuments (layers : List Layer) : Value :=
  Value.mergeAll (layers.filterMap fun layer => layer.fragment.document)

namespace PodTemplate

/-- The clash over the first init container that has the name of a container. -/
def nameClash? (pod : PodTemplate) : Option Clash :=
  (pod.spec.initContainers.keys.find? pod.spec.containers.contains).map fun name =>
    ⟨"spec.initContainers[" ++ name ++ "].name", "application container", "init container"⟩

def withInitImage (pod : PodTemplate) (image : String) : PodTemplate :=
  { pod with
    spec :=
      { pod.spec with
        initContainers := pod.spec.initContainers.mapEntries fun container =>
          { container with image := container.image.or (some image) } } }

/-- Init containers without an image take that of the primary container, if it has one. -/
def inheritImage (pod : PodTemplate) (primary : String) : PodTemplate :=
  match (pod.spec.containers.get? primary).bind Container.image with
  | some image => pod.withInitImage image
  | none => pod

end PodTemplate

/-- The result of a stack of layers. -/
def assembleLayers (target : Target) (primary : String) (layers : List Layer) :
    Except Issue Assembled := do
  let pod ← (stackPods layers).mapError Issue.conflict
  match pod.nameClash? with
  | some clash => throw (.conflict clash)
  | none =>
    return {
      pod := pod.inheritImage primary
      document := stackDocuments layers
      trail := ⟨target, layers.map Layer.origin⟩ }

/-- Layers gathered for a target, with the issues met on the way. -/
structure Composition where
  target : Target
  layers : List Layer
  issues : List Issue

namespace Composition

def hasIssues (composition : Composition) : Bool := !composition.issues.isEmpty

/-- The issues as one, or what is made of the layers when there are none. -/
def outcome {α : Type} (composition : Composition)
    (make : Target → List Layer → Except Issue α) : Except Issue α :=
  match Issue.combine composition.target composition.issues with
  | some issue => .error issue
  | none => make composition.target composition.layers

end Composition

end PodLayers
