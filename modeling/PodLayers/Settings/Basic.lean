import PodLayers.Pod.Decode
import PodLayers.Text.Characters

/-!
# Settings of the platform

The settings name the workload's container, its ports and paths, the resources of its container, the
metrics sidecar and the monitoring token. Every field has a default, and `Settings.problem?` says what
makes a set of values unusable.
-/

namespace PodLayers

/-- The primary workload. -/
structure Workload where
  containerName : String := "kibana"
  shortName : String := "kb"
  imageRepository : String := "docker.elastic.co/kibana/kibana"
  httpPort : UInt16 := 5601
  portName : String := "https"
  readinessScheme : Scheme := .https
  readinessPath : String := "/login"
  configVolumeName : String := "elastic-internal-kibana-config"
  configMountPath : String := "/usr/share/kibana/config"
  labelDomain : String := "kibana.k8s.elastic.co"
  typeLabelValue : String := "kibana"
deriving DecidableEq

/-- The sidecar that serves metrics of the whole cluster. -/
structure ShardShim where
  containerName : String := "kube-state-metrics"
  image : String := "registry.k8s.io/kube-state-metrics/kube-state-metrics:v2.10.0"
  port : UInt16 := 8080
deriving DecidableEq

structure Monitoring where
  period : String := "10s"
  tokenDir : String := "/var/run/secrets/elastic.co/monitoring"
  tokenExpirationSeconds : UInt32 := 3600
  defaultOutput : String := "default"
deriving DecidableEq

/-- One gibibyte of memory, as limit and as request. -/
def Resources.oneGibibyte : Resources :=
  let memory := SortedMap.ofList [("memory", Quantity.mk "1Gi")]
  { limits := memory, requests := memory }

structure Settings where
  workload : Workload := {}
  defaultResources : Resources := .oneGibibyte
  shardShim : ShardShim := {}
  monitoring : Monitoring := {}
deriving DecidableEq

namespace Workload

def nameLabel (workload : Workload) : String := workload.labelDomain ++ "/name"

def versionLabel (workload : Workload) : String := workload.labelDomain ++ "/version"

end Workload

/-- The token's file in the token directory; slashes at the end of the directory do not count. -/
def Monitoring.tokenFile (monitoring : Monitoring) : String :=
  String.ofList (monitoring.tokenDir.toList.reverse.dropWhile (· == '/')).reverse ++ "/token"

/-- What is wrong with the settings as a whole, and the setting that is blamed. -/
inductive SettingsProblem
  | empty (key : String)
  | shimNamedAsWorkload
  | noResources
  | zeroPort
deriving DecidableEq, Repr

namespace SettingsProblem

def key : SettingsProblem → String
  | .empty key => key
  | .shimNamedAsWorkload => "shard_shim.container_name"
  | .noResources => "default_resources"
  | .zeroPort => "port"

def detail : SettingsProblem → String
  | .empty _ => "must not be empty"
  | .shimNamedAsWorkload => "must differ from workload.container_name"
  | .noResources => "must set limits or requests"
  | .zeroPort => "ports must be non-zero"

end SettingsProblem

namespace Settings

/-- The settings that must not be blank, by their keys. -/
def required (settings : Settings) : List (String × String) := [
  ("workload.container_name", settings.workload.containerName),
  ("workload.short_name", settings.workload.shortName),
  ("workload.image_repository", settings.workload.imageRepository),
  ("workload.label_domain", settings.workload.labelDomain),
  ("shard_shim.container_name", settings.shardShim.containerName),
  ("shard_shim.image", settings.shardShim.image)]

/-- The first problem of the settings. -/
def problem? (settings : Settings) : Option SettingsProblem :=
  match settings.required.find? fun entry => Text.blank entry.2 with
  | some (key, _) => some (.empty key)
  | none =>
    if settings.shardShim.containerName = settings.workload.containerName then
      some .shimNamedAsWorkload
    else if !settings.defaultResources.isSet then some .noResources
    else if settings.workload.httpPort = 0 ∨ settings.shardShim.port = 0 then some .zeroPort
    else none

end Settings

/-! ## Reading and writing -/

open PodLayers.Field

def Workload.record {ν : Type} [Readable ν] : Record ν Workload where
  title := "WorkloadProfile"
  blank := {}
  fields := [
    defaulted "container_name" Read.text fun containerName w => { w with containerName },
    defaulted "short_name" Read.text fun shortName w => { w with shortName },
    defaulted "image_repository" Read.text fun imageRepository w => { w with imageRepository },
    defaulted "http_port" Read.uint16 fun httpPort w => { w with httpPort },
    defaulted "port_name" Read.text fun portName w => { w with portName },
    defaulted "readiness_scheme" Scheme.read fun readinessScheme w => { w with readinessScheme },
    defaulted "readiness_path" Read.text fun readinessPath w => { w with readinessPath },
    defaulted "config_volume_name" Read.text fun configVolumeName w => { w with configVolumeName },
    defaulted "config_mount_path" Read.text fun configMountPath w => { w with configMountPath },
    defaulted "label_domain" Read.text fun labelDomain w => { w with labelDomain },
    defaulted "type_label_value" Read.text fun typeLabelValue w => { w with typeLabelValue }]

def ShardShim.record {ν : Type} [Readable ν] : Record ν ShardShim where
  title := "ShardShimSettings"
  blank := {}
  fields := [
    defaulted "container_name" Read.text fun containerName s => { s with containerName },
    defaulted "image" Read.text fun image s => { s with image },
    defaulted "port" Read.uint16 fun port s => { s with port }]

def Monitoring.record {ν : Type} [Readable ν] : Record ν Monitoring where
  title := "MonitoringSettings"
  blank := {}
  fields := [
    defaulted "period" Read.text fun period m => { m with period },
    defaulted "token_dir" Read.text fun tokenDir m => { m with tokenDir },
    defaulted "token_expiration_seconds" Read.uint32 fun tokenExpirationSeconds m =>
      { m with tokenExpirationSeconds },
    defaulted "default_output" Read.text fun defaultOutput m => { m with defaultOutput }]

def Settings.record {ν : Type} [Readable ν] : Record ν Settings where
  title := "ComposerSettings"
  blank := {}
  fields := [
    defaulted "workload" Workload.record.read fun workload s => { s with workload },
    defaulted "default_resources" Resources.record.read fun defaultResources s =>
      { s with defaultResources },
    defaulted "shard_shim" ShardShim.record.read fun shardShim s => { s with shardShim },
    defaulted "monitoring" Monitoring.record.read fun monitoring s => { s with monitoring }]

open Value

def Workload.encode (workload : Workload) : Value := ofFields [
  always "container_name" (.text workload.containerName),
  always "short_name" (.text workload.shortName),
  always "image_repository" (.text workload.imageRepository),
  always "http_port" (ofPort workload.httpPort),
  always "port_name" (.text workload.portName),
  always "readiness_scheme" workload.readinessScheme.encode,
  always "readiness_path" (.text workload.readinessPath),
  always "config_volume_name" (.text workload.configVolumeName),
  always "config_mount_path" (.text workload.configMountPath),
  always "label_domain" (.text workload.labelDomain),
  always "type_label_value" (.text workload.typeLabelValue)]

def ShardShim.encode (shim : ShardShim) : Value := ofFields [
  always "container_name" (.text shim.containerName),
  always "image" (.text shim.image),
  always "port" (ofPort shim.port)]

def Monitoring.encode (monitoring : Monitoring) : Value := ofFields [
  always "period" (.text monitoring.period),
  always "token_dir" (.text monitoring.tokenDir),
  always "token_expiration_seconds" (ofWord monitoring.tokenExpirationSeconds),
  always "default_output" (.text monitoring.defaultOutput)]

def Settings.encode (settings : Settings) : Value := ofFields [
  always "workload" settings.workload.encode,
  always "default_resources" settings.defaultResources.encode,
  always "shard_shim" settings.shardShim.encode,
  always "monitoring" settings.monitoring.encode]

end PodLayers
