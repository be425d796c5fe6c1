import PodLayers.Pod.Quantity
import PodLayers.Pod.Volume

/-!
# Containers

The image is an identity. Commands, resources and probes are replaced as a whole, environment and ports
are concatenated, and mounts combine by name.
-/

namespace PodLayers

structure EnvVar where
  name : String
  value : Option String := none
deriving DecidableEq, Repr

inductive Protocol
  | tcp
  | udp
  | sctp
deriving DecidableEq, Repr

inductive Scheme
  | http
  | https
deriving DecidableEq, Repr

structure ContainerPort where
  name : Option String := none
  containerPort : UInt16
  protocol : Protocol := .tcp
deriving DecidableEq, Repr

structure Resources where
  limits : SortedMap Quantity := .empty
  requests : SortedMap Quantity := .empty
deriving DecidableEq

structure HttpGet where
  path : String
  port : UInt16
  scheme : Scheme := .http
deriving DecidableEq, Repr

structure TcpSocket where
  port : UInt16
deriving DecidableEq, Repr

structure Probe where
  httpGet : Option HttpGet := none
  tcpSocket : Option TcpSocket := none
  initialDelaySeconds : Option UInt32 := none
  periodSeconds : Option UInt32 := none
  timeoutSeconds : Option UInt32 := none
  successThreshold : Option UInt32 := none
  failureThreshold : Option UInt32 := none
deriving DecidableEq, Repr

structure Container where
  name : String
  image : Option String := none
  command : List String := []
  env : List EnvVar := []
  ports : List ContainerPort := []
  volumeMounts : NamedList VolumeMount := .empty
  resources : Option Resources := none
  readinessProbe : Option Probe := none
deriving DecidableEq

/-- A port with a name, for TCP. -/
def ContainerPort.tcp (name : String) (port : UInt16) : ContainerPort :=
  { name := some name, containerPort := port }

/-- Whether a block says anything; one that does not leaves the lower block in place. -/
def Resources.isSet (resources : Resources) : Bool :=
  !(resources.limits.isEmpty && resources.requests.isEmpty)

namespace Container

instance : Named Container := ⟨Container.name⟩

/-- The variables as the container sees them: each name where it first stands, with its last value. -/
def effectiveEnv (container : Container) : List (String × Option String) :=
  container.env.foldl (fun seen var => Entries.assign var.name var.value seen) []

def overlay (slot : Slot) (lower higher : Container) : Merged Container :=
  let image := Rule.identity (slot.field "image") lower.image higher.image
  (image.map fun image => { lower with image }).andThen fun lower =>
    let lower :=
      { lower with
        command := Rule.ifNonempty lower.command higher.command
        env := lower.env ++ higher.env
        ports := lower.ports ++ higher.ports }
    let mounts := Layered.overlay (slot.field "volumeMounts") lower.volumeMounts higher.volumeMounts
    (mounts.map fun volumeMounts => { lower with volumeMounts }).andThen fun lower =>
      .done
        { lower with
          resources := Rule.ifCounts Resources.isSet lower.resources higher.resources
          readinessProbe := Rule.ifSet lower.readinessProbe higher.readinessProbe }

instance : Layered Container := ⟨overlay⟩

end Container

end PodLayers
