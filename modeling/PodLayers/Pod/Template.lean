import PodLayers.Pod.Container

/-!
# Pod templates

A template is metadata and a specification. Labels and annotations combine key by key, containers and
volumes by name, and the remaining fields are replaced where the higher layer sets them.
-/

namespace PodLayers

structure Metadata where
  labels : SortedMap String := .empty
  annotations : SortedMap String := .empty
deriving DecidableEq

structure PodSpec where
  initContainers : NamedList Container := .empty
  containers : NamedList Container := .empty
  volumes : NamedList Volume := .empty
  automountServiceAccountToken : Option Bool := none
  serviceAccountName : Option String := none
deriving DecidableEq

structure PodTemplate where
  metadata : Metadata := {}
  spec : PodSpec := {}
deriving DecidableEq

namespace Metadata

def isEmpty (metadata : Metadata) : Bool := metadata.labels.isEmpty && metadata.annotations.isEmpty

def overlay (lower higher : Metadata) : Metadata where
  labels := lower.labels.overlay higher.labels
  annotations := lower.annotations.overlay higher.annotations

instance : Layered Metadata := ⟨fun _ lower higher => .done (lower.overlay higher)⟩

end Metadata

namespace PodSpec

def overlay (slot : Slot) (lower higher : PodSpec) : Merged PodSpec :=
  ((Layered.overlay (slot.field "initContainers") lower.initContainers higher.initContainers).map
      fun initContainers => { lower with initContainers })
  |>.andThen (fun lower =>
    (Layered.overlay (slot.field "containers") lower.containers higher.containers).map
      fun containers => { lower with containers })
  |>.andThen (fun lower =>
    (Layered.overlay (slot.field "volumes") lower.volumes higher.volumes).map
      fun volumes => { lower with volumes })
  |>.andThen fun lower =>
    .done
      { lower with
        automountServiceAccountToken :=
          Rule.ifSet lower.automountServiceAccountToken higher.automountServiceAccountToken
        serviceAccountName := Rule.ifSet lower.serviceAccountName higher.serviceAccountName }

instance : Layered PodSpec := ⟨overlay⟩

end PodSpec

namespace PodTemplate

def overlay (slot : Slot) (lower higher : PodTemplate) : Merged PodTemplate :=
  let metadata := lower.metadata.overlay higher.metadata
  (lower.spec.overlay (slot.field "spec") higher.spec).map fun spec => { metadata, spec }

instance : Layered PodTemplate := ⟨overlay⟩

end PodTemplate

end PodLayers
