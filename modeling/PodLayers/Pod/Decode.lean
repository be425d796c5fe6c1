import PodLayers.Pod.Encode
import PodLayers.Record.OfValue

/-!
# Pod templates from values
-/

namespace PodLayers

open PodLayers.Field

/-- A list of named entries. The whole list is read before names are compared. -/
def NamedList.read {α : Type} [Named α] (entry : Reader Value α) : Reader Value (NamedList α) :=
  fun node => do
    match NamedList.ofList? (← Read.list entry node) with
    | .ok list => return list
    | .error duplicate => fail (.rejected duplicate.message)

def Protocol.read : Reader Value Protocol := Readable.variant "Protocol" Protocol.table

/-- The scheme of a request, which settings name too. -/
def Scheme.read {ν : Type} [Readable ν] : Reader ν Scheme := Readable.variant "Scheme" Scheme.table

def VolumeMount.record : Record Value VolumeMount where
  title := "VolumeMount"
  blank := { name := "" }
  fields := [
    needed "name" Read.text fun name m => { m with name },
    defaulted "mountPath" (Read.optional Read.text) fun mountPath m => { m with mountPath },
    defaulted "readOnly" (Read.optional Read.bool) fun readOnly m => { m with readOnly },
    defaulted "subPath" (Read.optional Read.text) fun subPath m => { m with subPath }]

def SecretSource.record : Record Value SecretSource where
  title := "SecretVolumeSource"
  blank := { secretName := "" }
  fields := [
    needed "secretName" Read.text fun secretName s => { s with secretName },
    defaulted "optional" (Read.optional Read.bool) fun optional s => { s with optional }]

def ConfigMapSource.record : Record Value ConfigMapSource where
  title := "ConfigMapVolumeSource"
  blank := { name := "" }
  fields := [needed "name" Read.text fun name s => { s with name }]

def EmptyDirSource.record : Record Value EmptyDirSource where
  title := "EmptyDirVolumeSource"
  blank := {}
  fields := [defaulted "medium" (Read.optional Read.text) fun medium s => { s with medium }]

def TokenProjection.record : Record Value TokenProjection where
  title := "ServiceAccountTokenProjection"
  blank := { path := "" }
  fields := [
    needed "path" Read.text fun path t => { t with path },
    defaulted "expirationSeconds" (Read.optional Read.uint32) fun expirationSeconds t =>
      { t with expirationSeconds },
    defaulted "audience" (Read.optional Read.text) fun audience t => { t with audience }]

def VolumeProjection.record : Record Value VolumeProjection where
  title := "VolumeProjection"
  blank := {}
  fields := [
    defaulted "serviceAccountToken" (Read.optional TokenProjection.record.read)
      fun serviceAccountToken p => { p with serviceAccountToken }]

def ProjectedSource.record : Record Value ProjectedSource where
  title := "ProjectedVolumeSource"
  blank := {}
  fields := [
    defaulted "sources" (Read.list VolumeProjection.record.read) fun sources s => { s with sources }]

def Volume.record : Record Value Volume where
  title := "Volume"
  blank := { name := "" }
  fields := [
    needed "name" Read.text fun name v => { v with name },
    defaulted "secret" (Read.optional SecretSource.record.read) fun secret v =>
      { v with sources := { v.sources with secret } },
    defaulted "configMap" (Read.optional ConfigMapSource.record.read) fun configMap v =>
      { v with sources := { v.sources with configMap } },
    defaulted "emptyDir" (Read.optional EmptyDirSource.record.read) fun emptyDir v =>
      { v with sources := { v.sources with emptyDir } },
    defaulted "projected" (Read.optional ProjectedSource.record.read) fun projected v =>
      { v with sources := { v.sources with projected } }]

def EnvVar.record : Record Value EnvVar where
  title := "EnvVar"
  blank := { name := "" }
  fields := [
    needed "name" Read.text fun name v => { v with name },
    defaulted "value" (Read.optional Read.text) fun value v => { v with value }]

def ContainerPort.record : Record Value ContainerPort where
  title := "ContainerPort"
  blank := { containerPort := 0 }
  fields := [
    defaulted "name" (Read.optional Read.text) fun name p => { p with name },
    needed "containerPort" Read.uint16 fun containerPort p => { p with containerPort },
    defaulted "protocol" Protocol.read fun protocol p => { p with protocol }]

/-- Resource blocks are also part of the settings. -/
def Resources.record {ν : Type} [Readable ν] : Record ν Resources where
  title := "ResourceRequirements"
  blank := {}
  fields := [
    defaulted "limits" (Read.map Quantity.read) fun limits r => { r with limits },
    defaulted "requests" (Read.map Quantity.read) fun requests r => { r with requests }]

def HttpGet.record : Record Value HttpGet where
  title := "HttpGetAction"
  blank := { path := "", port := 0 }
  fields := [
    needed "path" Read.text fun path g => { g with path },
    needed "port" Read.uint16 fun port g => { g with port },
    defaulted "scheme" Scheme.read fun scheme g => { g with scheme }]

def TcpSocket.record : Record Value TcpSocket where
  title := "TcpSocketAction"
  blank := { port := 0 }
  fields := [needed "port" Read.uint16 fun port s => { s with port }]

def Probe.record : Record Value Probe where
  title := "Probe"
  blank := {}
  fields := [
    defaulted "httpGet" (Read.optional HttpGet.record.read) fun httpGet p => { p with httpGet },
    defaulted "tcpSocket" (Read.optional TcpSocket.record.read) fun tcpSocket p => { p with tcpSocket },
    defaulted "initialDelaySeconds" (Read.optional Read.uint32) fun initialDelaySeconds p =>
      { p with initialDelaySeconds },
    defaulted "periodSeconds" (Read.optional Read.uint32) fun periodSeconds p => { p with periodSeconds },
    defaulted "timeoutSeconds" (Read.optional Read.uint32) fun timeoutSeconds p => { p with timeoutSeconds },
    defaulted "successThreshold" (Read.optional Read.uint32) fun successThreshold p =>
      { p with successThreshold },
    defaulted "failureThreshold" (Read.optional Read.uint32) fun failureThreshold p =>
      { p with failureThreshold }]

def Container.record : Record Value Container where
  title := "Container"
  blank := { name := "" }
  fields := [
    needed "name" Read.text fun name c => { c with name },
    defaulted "image" (Read.optional Read.text) fun image c => { c with image },
    defaulted "command" (Read.list Read.text) fun command c => { c with command },
    defaulted "env" (Read.list EnvVar.record.read) fun env c => { c with env },
    defaulted "ports" (Read.list ContainerPort.record.read) fun ports c => { c with ports },
    defaulted "volumeMounts" (NamedList.read VolumeMount.record.read) fun volumeMounts c =>
      { c with volumeMounts },
    defaulted "resources" (Read.optional Resources.record.read) fun resources c => { c with resources },
    defaulted "readinessProbe" (Read.optional Probe.record.read) fun readinessProbe c =>
      { c with readinessProbe }]

def Metadata.record : Record Value Metadata where
  title := "ObjectMeta"
  blank := {}
  fields := [
    defaulted "labels" (Read.map Read.text) fun labels m => { m with labels },
    defaulted "annotations" (Read.map Read.text) fun annotations m => { m with annotations }]

def PodSpec.record : Record Value PodSpec where
  title := "PodSpec"
  blank := {}
  fields := [
    defaulted "initContainers" (NamedList.read Container.record.read) fun initContainers s =>
      { s with initContainers },
    defaulted "containers" (NamedList.read Container.record.read) fun containers s =>
      { s with containers },
    defaulted "volumes" (NamedList.read Volume.record.read) fun volumes s => { s with volumes },
    defaulted "automountServiceAccountToken" (Read.optional Read.bool)
      fun automountServiceAccountToken s => { s with automountServiceAccountToken },
    defaulted "serviceAccountName" (Read.optional Read.text) fun serviceAccountName s =>
      { s with serviceAccountName }]

def PodTemplate.record : Record Value PodTemplate where
  title := "PodTemplate"
  blank := {}
  fields := [
    defaulted "metadata" Metadata.record.read fun metadata p => { p with metadata },
    defaulted "spec" PodSpec.record.read fun spec p => { p with spec }]

end PodLayers
