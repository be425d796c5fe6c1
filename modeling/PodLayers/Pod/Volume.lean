import PodLayers.Layer.NamedList

/-!
# Volumes and volume mounts

The sources of a volume are one identity: a layer with any source replaces all of them, and only the user
may replace one set of sources by another. The fields of a mount are set one by one.
-/

namespace PodLayers

structure VolumeMount where
  name : String
  mountPath : Option String := none
  readOnly : Option Bool := none
  subPath : Option String := none
deriving DecidableEq, Repr

structure SecretSource where
  secretName : String
  optional : Option Bool := none
deriving DecidableEq, Repr

structure ConfigMapSource where
  name : String
deriving DecidableEq, Repr

structure EmptyDirSource where
  medium : Option String := none
deriving DecidableEq, Repr

structure TokenProjection where
  path : String
  expirationSeconds : Option UInt32 := none
  audience : Option String := none
deriving DecidableEq, Repr

structure VolumeProjection where
  serviceAccountToken : Option TokenProjection := none
deriving DecidableEq, Repr

structure ProjectedSource where
  sources : List VolumeProjection := []
deriving DecidableEq, Repr

/-- Where the content of a volume comes from. -/
structure VolumeSources where
  secret : Option SecretSource := none
  configMap : Option ConfigMapSource := none
  emptyDir : Option EmptyDirSource := none
  projected : Option ProjectedSource := none
deriving DecidableEq, Repr

structure Volume where
  name : String
  sources : VolumeSources := {}
deriving DecidableEq, Repr

namespace VolumeMount

/-- A mount at a path. -/
def atPath (name path : String) : VolumeMount := { name, mountPath := some path }

def asReadOnly (mount : VolumeMount) : VolumeMount := { mount with readOnly := some true }

instance : Named VolumeMount := ⟨VolumeMount.name⟩

def overlay (lower higher : VolumeMount) : VolumeMount where
  name := lower.name
  mountPath := Rule.ifSet lower.mountPath higher.mountPath
  readOnly := Rule.ifSet lower.readOnly higher.readOnly
  subPath := Rule.ifSet lower.subPath higher.subPath

instance : Layered VolumeMount := ⟨fun _ lower higher => .done (lower.overlay higher)⟩

end VolumeMount

namespace VolumeSources

def isSet (sources : VolumeSources) : Bool :=
  sources.secret.isSome || sources.configMap.isSome || sources.emptyDir.isSome
    || sources.projected.isSome

/-- The first source, in short. -/
def describe (sources : VolumeSources) : String :=
  match sources with
  | { secret := some secret, .. } => "secret/" ++ secret.secretName
  | { configMap := some configMap, .. } => "configMap/" ++ configMap.name
  | { emptyDir := some _, .. } => "emptyDir"
  | { projected := some _, .. } => "projected"
  | _ => "<none>"

end VolumeSources

namespace Volume

def hasSource (volume : Volume) : Bool := volume.sources.isSet

/-- A volume with the content of a secret. -/
def ofSecret (name secretName : String) : Volume :=
  { name, sources := { secret := some { secretName } } }

/-- A volume that starts empty. -/
def scratch (name : String) : Volume := { name, sources := { emptyDir := some {} } }

instance : Named Volume := ⟨Volume.name⟩

/-- The clash between two volumes that both have sources, and different ones. -/
def clash? (slot : Slot) (lower higher : Volume) : Option Clash :=
  if lower.hasSource ∧ lower.sources ≠ higher.sources then
    (slot.field "source").replacing lower.sources.describe higher.sources.describe
  else none

def overlay (slot : Slot) (lower higher : Volume) : Merged Volume :=
  if !higher.hasSource then .done lower
  else
    match clash? slot lower higher with
    | some clash => ⟨lower, some clash⟩
    | none => .done { lower with sources := higher.sources }

instance : Layered Volume := ⟨overlay⟩

end Volume

end PodLayers
