import PodLayers.Pod.Template

/-!
# Pod templates as values

Fields stand in the order of declaration. Absent and empty fields are left out, except for the
specification of a template, the protocol of a port, the scheme of a request and the list of projections.
-/

namespace PodLayers

open Value

def Protocol.table : List (String × Protocol) := [("TCP", .tcp), ("UDP", .udp), ("SCTP", .sctp)]

def Protocol.name : Protocol → String
  | .tcp => "TCP"
  | .udp => "UDP"
  | .sctp => "SCTP"

def Scheme.table : List (String × Scheme) := [("HTTP", .http), ("HTTPS", .https)]

def Scheme.name : Scheme → String
  | .http => "HTTP"
  | .https => "HTTPS"

def Protocol.encode (protocol : Protocol) : Value := .text protocol.name

def Scheme.encode (scheme : Scheme) : Value := .text scheme.name

def Value.ofPort (p : UInt16) : Value := .integer p.toNat

def Value.ofWord (n : UInt32) : Value := .integer n.toNat

def NamedList.encode {α : Type} (write : α → Value) (list : NamedList α) : Value :=
  Value.ofList write list.toList

def VolumeMount.encode (mount : VolumeMount) : Value := ofFields [
  always "name" (.text mount.name),
  ifPresent "mountPath" .text mount.mountPath,
  ifPresent "readOnly" .bool mount.readOnly,
  ifPresent "subPath" .text mount.subPath]

def SecretSource.encode (source : SecretSource) : Value := ofFields [
  always "secretName" (.text source.secretName),
  ifPresent "optional" .bool source.optional]

def ConfigMapSource.encode (source : ConfigMapSource) : Value := ofFields [
  always "name" (.text source.name)]

def EmptyDirSource.encode (source : EmptyDirSource) : Value := ofFields [
  ifPresent "medium" .text source.medium]

def TokenProjection.encode (token : TokenProjection) : Value := ofFields [
  always "path" (.text token.path),
  ifPresent "expirationSeconds" ofWord token.expirationSeconds,
  ifPresent "audience" .text token.audience]

def VolumeProjection.encode (projection : VolumeProjection) : Value := ofFields [
  ifPresent "serviceAccountToken" TokenProjection.encode projection.serviceAccountToken]

def ProjectedSource.encode (source : ProjectedSource) : Value := ofFields [
  always "sources" (Value.ofList VolumeProjection.encode source.sources)]

def Volume.encode (volume : Volume) : Value := ofFields [
  always "name" (.text volume.name),
  ifPresent "secret" SecretSource.encode volume.sources.secret,
  ifPresent "configMap" ConfigMapSource.encode volume.sources.configMap,
  ifPresent "emptyDir" EmptyDirSource.encode volume.sources.emptyDir,
  ifPresent "projected" ProjectedSource.encode volume.sources.projected]

def EnvVar.encode (var : EnvVar) : Value := ofFields [
  always "name" (.text var.name),
  ifPresent "value" .text var.value]

def ContainerPort.encode (p : ContainerPort) : Value := ofFields [
  ifPresent "name" .text p.name,
  always "containerPort" (ofPort p.containerPort),
  always "protocol" p.protocol.encode]

def Resources.encode (resources : Resources) : Value := ofFields [
  omitIf "limits" resources.limits.isEmpty (ofMap Quantity.encode resources.limits),
  omitIf "requests" resources.requests.isEmpty (ofMap Quantity.encode resources.requests)]

def HttpGet.encode (get : HttpGet) : Value := ofFields [
  always "path" (.text get.path),
  always "port" (ofPort get.port),
  always "scheme" get.scheme.encode]

def TcpSocket.encode (socket : TcpSocket) : Value := ofFields [
  always "port" (ofPort socket.port)]

def Probe.encode (probe : Probe) : Value := ofFields [
  ifPresent "httpGet" HttpGet.encode probe.httpGet,
  ifPresent "tcpSocket" TcpSocket.encode probe.tcpSocket,
  ifPresent "initialDelaySeconds" ofWord probe.initialDelaySeconds,
  ifPresent "periodSeconds" ofWord probe.periodSeconds,
  ifPresent "timeoutSeconds" ofWord probe.timeoutSeconds,
  ifPresent "successThreshold" ofWord probe.successThreshold,
  ifPresent "failureThreshold" ofWord probe.failureThreshold]

def Container.encode (container : Container) : Value := ofFields [
  always "name" (.text container.name),
  ifPresent "image" .text container.image,
  omitIf "command" container.command.isEmpty (Value.ofList .text container.command),
  omitIf "env" container.env.isEmpty (Value.ofList EnvVar.encode container.env),
  omitIf "ports" container.ports.isEmpty (Value.ofList ContainerPort.encode container.ports),
  omitIf "volumeMounts" container.volumeMounts.isEmpty
    (container.volumeMounts.encode VolumeMount.encode),
  ifPresent "resources" Resources.encode container.resources,
  ifPresent "readinessProbe" Probe.encode container.readinessProbe]

def Metadata.encode (metadata : Metadata) : Value := ofFields [
  omitIf "labels" metadata.labels.isEmpty (ofMap .text metadata.labels),
  omitIf "annotations" metadata.annotations.isEmpty (ofMap .text metadata.annotations)]

def PodSpec.encode (spec : PodSpec) : Value := ofFields [
  omitIf "initContainers" spec.initContainers.isEmpty (spec.initContainers.encode Container.encode),
  omitIf "containers" spec.containers.isEmpty (spec.containers.encode Container.encode),
  omitIf "volumes" spec.volumes.isEmpty (spec.volumes.encode Volume.encode),
  ifPresent "automountServiceAccountToken" .bool spec.automountServiceAccountToken,
  ifPresent "serviceAccountName" .text spec.serviceAccountName]

def PodTemplate.encode (pod : PodTemplate) : Value := ofFields [
  omitIf "metadata" pod.metadata.isEmpty pod.metadata.encode,
  always "spec" pod.spec.encode]

/-- The value of a template, with all its mappings in key order. -/
def PodTemplate.toValue (pod : PodTemplate) : Value := pod.encode.arranged

end PodLayers
