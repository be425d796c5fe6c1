import PodLayers.Preset.Basic

/-!
# The default layer

What every composition starts from: the primary container with its port, probe and configuration volume,
the identifying labels, and the document of the collection job.
-/

namespace PodLayers

namespace Defaults

def typeLabel : String := "common.k8s.elastic.co/type"

/-- An image of a repository at a version. -/
def taggedImage (repository version : String) : String := repository ++ ":" ++ version

def image (settings : Settings) (identity : Identity) : String :=
  identity.image.getD (taggedImage settings.workload.imageRepository identity.version)

def labels (settings : Settings) (identity : Identity) : SortedMap String := .ofList [
  (typeLabel, settings.workload.typeLabelValue),
  (settings.workload.nameLabel, identity.name),
  (settings.workload.versionLabel, identity.version)]

def configSecretName (settings : Settings) (identity : Identity) : String :=
  identity.name ++ "-" ++ settings.workload.shortName ++ "-config"

def portText (port : UInt16) : String := toString port.toNat

def serviceHost (settings : Settings) (identity : Identity) : String :=
  "https://" ++ identity.name ++ "-" ++ settings.workload.shortName ++ "-http." ++ identity.namespaceName
    ++ ".svc:" ++ portText settings.workload.httpPort

def readinessProbe (workload : Workload) : Probe where
  httpGet := some
    { path := workload.readinessPath, port := workload.httpPort, scheme := workload.readinessScheme }
  initialDelaySeconds := some 10
  periodSeconds := some 10
  timeoutSeconds := some 5
  successThreshold := some 1
  failureThreshold := some 3

def primaryContainer (settings : Settings) (identity : Identity) : Container :=
  let workload := settings.workload
  { name := workload.containerName
    image := some (image settings identity)
    ports := [.tcp workload.portName workload.httpPort]
    volumeMounts :=
      .ofList [(VolumeMount.atPath workload.configVolumeName workload.configMountPath).asReadOnly]
    resources := some settings.defaultResources
    readinessProbe := some (readinessProbe workload) }

def pod (settings : Settings) (identity : Identity) : PodTemplate where
  metadata := { labels := labels settings identity }
  spec :=
    { containers := .ofList [primaryContainer settings identity]
      volumes :=
        .ofList [.ofSecret settings.workload.configVolumeName (configSecretName settings identity)]
      automountServiceAccountToken := some false }

def document (settings : Settings) (identity : Identity) (flags : Flags) : Value :=
  let moduleName := settings.workload.typeLabelValue
  .mapping [
    ("add_metadata", .bool true),
    ("data_stream", .mapping [
      ("dataset", .text (moduleName ++ ".stack_monitoring")),
      ("namespace", .text identity.namespaceName)]),
    ("hosts", .list [.text (serviceHost settings identity)]),
    ("module", .text moduleName),
    ("period", .text settings.monitoring.period),
    ("use_output", .text (flags.output.getD settings.monitoring.defaultOutput))]

def fragment (settings : Settings) (identity : Identity) (flags : Flags) : Fragment where
  pod := pod settings identity
  document := some (document settings identity flags)

end Defaults

end PodLayers
