import PodLayers.Proofs.RecordParts

/-!
# The parts of a template

Every record of a template, with its parts in the order of declaration.
-/

namespace PodLayers.Proofs
open RecordPart Value

/-! ## Contents of parts -/

lemma optional_of_isNull {α : Type} {read : Reader Value α} {v : Value} (h : v.isNull = false) :
    Read.optional read v = (read v).map some := by
  cases v with
  | null => cases h
  | number n => cases n <;> rfl
  | bool | text | list | mapping => rfl

lemma text_of_parse {input : String} {quantity : Quantity} (h : Quantity.parse input = .ok quantity) :
    quantity.text = input := by
  unfold Quantity.parse at h
  split at h
  · cases h
  · rw [← Except.ok.inj h]

lemma list_eq_nil {α : Type} {items : List α} (h : items.isEmpty = true) : items = [] :=
  List.isEmpty_iff.1 h

lemma namedList_eq_empty {α : Type} {list : NamedList α} (h : list.isEmpty = true) : list = .empty := by
  obtain ⟨entries⟩ := list
  exact congrArg NamedList.mk (List.isEmpty_iff.1 h)

lemma sortedMap_eq_empty {α : Type} {map : SortedMap α} (h : map.isEmpty = true) : map = .empty := by
  obtain ⟨entries, hsorted⟩ := map
  obtain rfl : entries = [] := List.isEmpty_iff.1 h
  rfl

lemma metadata_eq_empty {metadata : Metadata} (h : metadata.isEmpty = true) : metadata = {} := by
  obtain ⟨labels, annotations⟩ := metadata
  obtain ⟨hlabels, hannotations⟩ : labels.isEmpty = true ∧ annotations.isEmpty = true := by
    simpa [Metadata.isEmpty] using h
  rw [sortedMap_eq_empty hlabels, sortedMap_eq_empty hannotations]

/-! ## Records -/

def mountParts : List (RecordPart VolumeMount) := [
  needed "name" Read.text .text VolumeMount.name fun name m => { m with name },
  whenPresent "mountPath" Read.text .text VolumeMount.mountPath fun mountPath m => { m with mountPath },
  whenPresent "readOnly" Read.bool .bool VolumeMount.readOnly fun readOnly m => { m with readOnly },
  whenPresent "subPath" Read.text .text VolumeMount.subPath fun subPath m => { m with subPath }]

lemma partsOf_mount : PartsOf VolumeMount.record VolumeMount.encode mountParts where
  fields := rfl
  encode_eq m := by simp [VolumeMount.encode, mountParts]
  nodup := by decide
  get_set := by simp [mountParts, needed, whenPresent]
  get_set_other := by simp [mountParts, needed, whenPresent]
  ext := by
    rintro ⟨⟩ ⟨⟩ h
    simpa [mountParts, needed, whenPresent] using h

def secretParts : List (RecordPart SecretSource) := [
  needed "secretName" Read.text .text SecretSource.secretName fun secretName s => { s with secretName },
  whenPresent "optional" Read.bool .bool SecretSource.optional fun optional s => { s with optional }]

lemma partsOf_secret : PartsOf SecretSource.record SecretSource.encode secretParts where
  fields := rfl
  encode_eq s := by simp [SecretSource.encode, secretParts]
  nodup := by decide
  get_set := by simp [secretParts, needed, whenPresent]
  get_set_other := by simp [secretParts, needed, whenPresent]
  ext := by
    rintro ⟨⟩ ⟨⟩ h
    simpa [secretParts, needed, whenPresent] using h

def configMapParts : List (RecordPart ConfigMapSource) := [
  needed "name" Read.text .text ConfigMapSource.name fun name s => { s with name }]

lemma partsOf_configMap : PartsOf ConfigMapSource.record ConfigMapSource.encode configMapParts where
  fields := rfl
  encode_eq s := by simp [ConfigMapSource.encode, configMapParts]
  nodup := by decide
  get_set := by simp [configMapParts, needed]
  get_set_other := by simp [configMapParts, needed]
  ext := by
    rintro ⟨⟩ ⟨⟩ h
    simpa [configMapParts, needed] using h

def emptyDirParts : List (RecordPart EmptyDirSource) := [
  whenPresent "medium" Read.text .text EmptyDirSource.medium fun medium s => { s with medium }]

lemma partsOf_emptyDir : PartsOf EmptyDirSource.record EmptyDirSource.encode emptyDirParts where
  fields := rfl
  encode_eq s := by simp [EmptyDirSource.encode, emptyDirParts]
  nodup := by decide
  get_set := by simp [emptyDirParts, whenPresent]
  get_set_other := by simp [emptyDirParts, whenPresent]
  ext := by
    rintro ⟨⟩ ⟨⟩ h
    simpa [emptyDirParts, whenPresent] using h

def tokenParts : List (RecordPart TokenProjection) := [
  needed "path" Read.text .text TokenProjection.path fun path t => { t with path },
  whenPresent "expirationSeconds" Read.uint32 ofWord TokenProjection.expirationSeconds
    fun expirationSeconds t => { t with expirationSeconds },
  whenPresent "audience" Read.text .text TokenProjection.audience fun audience t => { t with audience }]

lemma partsOf_token : PartsOf TokenProjection.record TokenProjection.encode tokenParts where
  fields := rfl
  encode_eq t := by simp [TokenProjection.encode, tokenParts]
  nodup := by decide
  get_set := by simp [tokenParts, needed, whenPresent]
  get_set_other := by simp [tokenParts, needed, whenPresent]
  ext := by
    rintro ⟨⟩ ⟨⟩ h
    simpa [tokenParts, needed, whenPresent] using h

def projectionParts : List (RecordPart VolumeProjection) := [
  whenPresent "serviceAccountToken" TokenProjection.record.read TokenProjection.encode
    VolumeProjection.serviceAccountToken
    fun serviceAccountToken p => { p with serviceAccountToken }]

lemma partsOf_projection : PartsOf VolumeProjection.record VolumeProjection.encode projectionParts where
  fields := rfl
  encode_eq p := by simp [VolumeProjection.encode, projectionParts]
  nodup := by decide
  get_set := by simp [projectionParts, whenPresent]
  get_set_other := by simp [projectionParts, whenPresent]
  ext := by
    rintro ⟨⟩ ⟨⟩ h
    simpa [projectionParts, whenPresent] using h

def projectedParts : List (RecordPart ProjectedSource) := [
  completed "sources" (Read.list VolumeProjection.record.read) (Value.ofList VolumeProjection.encode)
    ProjectedSource.sources
    fun sources s => { s with sources }]

lemma partsOf_projected : PartsOf ProjectedSource.record ProjectedSource.encode projectedParts where
  fields := rfl
  encode_eq s := by simp [ProjectedSource.encode, projectedParts]
  nodup := by decide
  get_set := by simp [projectedParts, needed, completed]
  get_set_other := by simp [projectedParts, needed, completed]
  ext := by
    rintro ⟨⟩ ⟨⟩ h
    simpa [projectedParts, needed, completed] using h

def volumeParts : List (RecordPart Volume) := [
  needed "name" Read.text .text Volume.name fun name v => { v with name },
  whenPresent "secret" SecretSource.record.read SecretSource.encode (fun v => v.sources.secret)
    fun secret v => { v with sources := { v.sources with secret } },
  whenPresent "configMap" ConfigMapSource.record.read ConfigMapSource.encode
    (fun v => v.sources.configMap)
    fun configMap v => { v with sources := { v.sources with configMap } },
  whenPresent "emptyDir" EmptyDirSource.record.read EmptyDirSource.encode (fun v => v.sources.emptyDir)
    fun emptyDir v => { v with sources := { v.sources with emptyDir } },
  whenPresent "projected" ProjectedSource.record.read ProjectedSource.encode
    (fun v => v.sources.projected)
    fun projected v => { v with sources := { v.sources with projected } }]

lemma partsOf_volume : PartsOf Volume.record Volume.encode volumeParts where
  fields := rfl
  encode_eq v := by simp [Volume.encode, volumeParts]
  nodup := by decide
  get_set := by simp [volumeParts, needed, whenPresent]
  get_set_other := by simp [volumeParts, needed, whenPresent]
  ext := by
    rintro ⟨_, ⟨⟩⟩ ⟨_, ⟨⟩⟩ h
    simpa [volumeParts, needed, whenPresent] using h

def envVarParts : List (RecordPart EnvVar) := [
  needed "name" Read.text .text EnvVar.name fun name v => { v with name },
  whenPresent "value" Read.text .text EnvVar.value fun value v => { v with value }]

lemma partsOf_envVar : PartsOf EnvVar.record EnvVar.encode envVarParts where
  fields := rfl
  encode_eq v := by simp [EnvVar.encode, envVarParts]
  nodup := by decide
  get_set := by simp [envVarParts, needed, whenPresent]
  get_set_other := by simp [envVarParts, needed, whenPresent]
  ext := by
    rintro ⟨⟩ ⟨⟩ h
    simpa [envVarParts, needed, whenPresent] using h

def portParts : List (RecordPart ContainerPort) := [
  whenPresent "name" Read.text .text ContainerPort.name fun name p => { p with name },
  needed "containerPort" Read.uint16 ofPort ContainerPort.containerPort
    fun containerPort p => { p with containerPort },
  completed "protocol" Protocol.read Protocol.encode ContainerPort.protocol
    fun protocol p => { p with protocol }]

lemma partsOf_port : PartsOf ContainerPort.record ContainerPort.encode portParts where
  fields := rfl
  encode_eq p := by simp [ContainerPort.encode, portParts]
  nodup := by decide
  get_set := by simp [portParts, needed, completed, whenPresent]
  get_set_other := by simp [portParts, needed, completed, whenPresent]
  ext := by
    rintro ⟨⟩ ⟨⟩ h
    simpa [portParts, needed, completed, whenPresent] using h

def resourcesParts : List (RecordPart Resources) := [
  unlessEmpty "limits" (Read.map Quantity.read) (ofMap Quantity.encode) SortedMap.isEmpty
    Resources.limits
    fun limits r => { r with limits },
  unlessEmpty "requests" (Read.map Quantity.read) (ofMap Quantity.encode) SortedMap.isEmpty
    Resources.requests
    fun requests r => { r with requests }]

lemma partsOf_resources : PartsOf Resources.record Resources.encode resourcesParts where
  fields := rfl
  encode_eq r := by simp [Resources.encode, resourcesParts]
  nodup := by decide
  get_set := by simp [resourcesParts, unlessEmpty]
  get_set_other := by simp [resourcesParts, unlessEmpty]
  ext := by
    rintro ⟨⟩ ⟨⟩ h
    simpa [resourcesParts, unlessEmpty] using h

def httpGetParts : List (RecordPart HttpGet) := [
  needed "path" Read.text .text HttpGet.path fun path g => { g with path },
  needed "port" Read.uint16 ofPort HttpGet.port fun port g => { g with port },
  completed "scheme" Scheme.read Scheme.encode HttpGet.scheme fun scheme g => { g with scheme }]

lemma partsOf_httpGet : PartsOf HttpGet.record HttpGet.encode httpGetParts where
  fields := rfl
  encode_eq g := by simp [HttpGet.encode, httpGetParts]
  nodup := by decide
  get_set := by simp [httpGetParts, needed, completed]
  get_set_other := by simp [httpGetParts, needed, completed]
  ext := by
    rintro ⟨⟩ ⟨⟩ h
    simpa [httpGetParts, needed, completed] using h

def tcpSocketParts : List (RecordPart TcpSocket) := [
  needed "port" Read.uint16 ofPort TcpSocket.port fun port s => { s with port }]

lemma partsOf_tcpSocket : PartsOf TcpSocket.record TcpSocket.encode tcpSocketParts where
  fields := rfl
  encode_eq s := by simp [TcpSocket.encode, tcpSocketParts]
  nodup := by decide
  get_set := by simp [tcpSocketParts, needed]
  get_set_other := by simp [tcpSocketParts, needed]
  ext := by
    rintro ⟨⟩ ⟨⟩ h
    simpa [tcpSocketParts, needed] using h

def probeParts : List (RecordPart Probe) := [
  whenPresent "httpGet" HttpGet.record.read HttpGet.encode Probe.httpGet
    fun httpGet p => { p with httpGet },
  whenPresent "tcpSocket" TcpSocket.record.read TcpSocket.encode Probe.tcpSocket
    fun tcpSocket p => { p with tcpSocket },
  whenPresent "initialDelaySeconds" Read.uint32 ofWord Probe.initialDelaySeconds
    fun initialDelaySeconds p => { p with initialDelaySeconds },
  whenPresent "periodSeconds" Read.uint32 ofWord Probe.periodSeconds
    fun periodSeconds p => { p with periodSeconds },
  whenPresent "timeoutSeconds" Read.uint32 ofWord Probe.timeoutSeconds
    fun timeoutSeconds p => { p with timeoutSeconds },
  whenPresent "successThreshold" Read.uint32 ofWord Probe.successThreshold
    fun successThreshold p => { p with successThreshold },
  whenPresent "failureThreshold" Read.uint32 ofWord Probe.failureThreshold
    fun failureThreshold p => { p with failureThreshold }]

lemma partsOf_probe : PartsOf Probe.record Probe.encode probeParts where
  fields := rfl
  encode_eq p := by simp [Probe.encode, probeParts]
  nodup := by decide
  get_set := by simp [probeParts, whenPresent]
  get_set_other := by simp [probeParts, whenPresent]
  ext := by
    rintro ⟨⟩ ⟨⟩ h
    simpa [probeParts, whenPresent] using h

def containerParts : List (RecordPart Container) := [
  needed "name" Read.text .text Container.name fun name c => { c with name },
  whenPresent "image" Read.text .text Container.image fun image c => { c with image },
  unlessEmpty "command" (Read.list Read.text) (Value.ofList .text) List.isEmpty Container.command
    fun command c => { c with command },
  unlessEmpty "env" (Read.list EnvVar.record.read) (Value.ofList EnvVar.encode) List.isEmpty
    Container.env
    fun env c => { c with env },
  unlessEmpty "ports" (Read.list ContainerPort.record.read)
    (Value.ofList ContainerPort.encode) List.isEmpty Container.ports
    fun ports c => { c with ports },
  unlessEmpty "volumeMounts" (NamedList.read VolumeMount.record.read)
    (NamedList.encode VolumeMount.encode) NamedList.isEmpty Container.volumeMounts
    fun volumeMounts c => { c with volumeMounts },
  whenPresent "resources" Resources.record.read Resources.encode Container.resources
    fun resources c => { c with resources },
  whenPresent "readinessProbe" Probe.record.read Probe.encode Container.readinessProbe
    fun readinessProbe c => { c with readinessProbe }]

lemma partsOf_container : PartsOf Container.record Container.encode containerParts where
  fields := rfl
  encode_eq c := by simp [Container.encode, containerParts]
  nodup := by decide
  get_set := by simp [containerParts, needed, whenPresent, unlessEmpty]
  get_set_other := by simp [containerParts, needed, whenPresent, unlessEmpty]
  ext := by
    rintro ⟨⟩ ⟨⟩ h
    simpa [containerParts, needed, whenPresent, unlessEmpty] using h

def metadataParts : List (RecordPart Metadata) := [
  unlessEmpty "labels" (Read.map Read.text) (ofMap .text) SortedMap.isEmpty Metadata.labels
    fun labels m => { m with labels },
  unlessEmpty "annotations" (Read.map Read.text) (ofMap .text) SortedMap.isEmpty Metadata.annotations
    fun annotations m => { m with annotations }]

lemma partsOf_metadata : PartsOf Metadata.record Metadata.encode metadataParts where
  fields := rfl
  encode_eq m := by simp [Metadata.encode, metadataParts]
  nodup := by decide
  get_set := by simp [metadataParts, unlessEmpty]
  get_set_other := by simp [metadataParts, unlessEmpty]
  ext := by
    rintro ⟨⟩ ⟨⟩ h
    simpa [metadataParts, unlessEmpty] using h

def specParts : List (RecordPart PodSpec) := [
  unlessEmpty "initContainers" (NamedList.read Container.record.read)
    (NamedList.encode Container.encode) NamedList.isEmpty PodSpec.initContainers
    fun initContainers s => { s with initContainers },
  unlessEmpty "containers" (NamedList.read Container.record.read)
    (NamedList.encode Container.encode) NamedList.isEmpty PodSpec.containers
    fun containers s => { s with containers },
  unlessEmpty "volumes" (NamedList.read Volume.record.read)
    (NamedList.encode Volume.encode) NamedList.isEmpty PodSpec.volumes
    fun volumes s => { s with volumes },
  whenPresent "automountServiceAccountToken" Read.bool .bool PodSpec.automountServiceAccountToken
    fun automountServiceAccountToken s => { s with automountServiceAccountToken },
  whenPresent "serviceAccountName" Read.text .text PodSpec.serviceAccountName
    fun serviceAccountName s => { s with serviceAccountName }]

lemma partsOf_spec : PartsOf PodSpec.record PodSpec.encode specParts where
  fields := rfl
  encode_eq s := by simp [PodSpec.encode, specParts]
  nodup := by decide
  get_set := by simp [specParts, whenPresent, unlessEmpty]
  get_set_other := by simp [specParts, whenPresent, unlessEmpty]
  ext := by
    rintro ⟨⟩ ⟨⟩ h
    simpa [specParts, whenPresent, unlessEmpty] using h

def templateParts : List (RecordPart PodTemplate) := [
  unlessEmpty "metadata" Metadata.record.read Metadata.encode Metadata.isEmpty PodTemplate.metadata
    fun metadata p => { p with metadata },
  completed "spec" PodSpec.record.read PodSpec.encode PodTemplate.spec fun spec p => { p with spec }]

lemma partsOf_template : PartsOf PodTemplate.record PodTemplate.encode templateParts where
  fields := rfl
  encode_eq p := by simp [PodTemplate.encode, templateParts]
  nodup := by decide
  get_set := by simp [templateParts, needed, completed, unlessEmpty]
  get_set_other := by simp [templateParts, needed, completed, unlessEmpty]
  ext := by
    rintro ⟨⟩ ⟨⟩ h
    simpa [templateParts, needed, completed, unlessEmpty] using h

end PodLayers.Proofs
