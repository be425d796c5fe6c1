import PodLayers.Assembly.Platform
import PodLayers.Proofs.TemplateParts

/-!
# Templates survive being written and read

Reading undoes writing, first for the contents of single fields, then for lists and maps, then for every
record of a template. A template with coherent lists and checked quantities is read back as it was, so it
makes no difference whether a request gives the template or its value.
-/

namespace PodLayers.Proofs
open Entries

/-- Reading undoes writing at a value, and the value is not written as null. -/
structure Undoes {α : Type} (read : Reader Value α) (write : α → Value) (a : α) : Prop where
  read_write : read (write a).arranged = .ok a
  isNull_write : (write a).isNull = false

/-! ## Contents of fields -/

section Contents

variable {α : Type}

lemma undoes_text (s : String) : Undoes Read.text .text s := ⟨rfl, rfl⟩

lemma undoes_bool (b : Bool) : Undoes Read.bool .bool b := ⟨rfl, rfl⟩

lemma undoes_natural {bound : Nat} {expected : String} {ofNat : Nat → α} {toNat : α → Nat} {a : α}
    (hlt : toNat a < bound) (hofNat : ofNat (toNat a) = a) :
    Undoes (fun node => (Read.natural bound expected node).map ofNat) (fun a => .ofNat (toNat a)) a where
  read_write := by
    have hbounds : (0 : Int) ≤ toNat a ∧ (toNat a : Int) < bound :=
      ⟨Int.natCast_nonneg _, Int.ofNat_lt.2 hlt⟩
    have hread : Read.natural bound expected (Value.ofNat (toNat a)).arranged = .ok (toNat a) :=
      if_pos hbounds
    rw [hread, Except.map, hofNat]
  isNull_write := rfl

lemma undoes_uint16 (p : UInt16) : Undoes Read.uint16 Value.ofPort p :=
  undoes_natural p.toNat_lt UInt16.ofNat_toNat

lemma undoes_uint32 (n : UInt32) : Undoes Read.uint32 Value.ofWord n :=
  undoes_natural n.toNat_lt UInt32.ofNat_toNat

lemma undoes_protocol (protocol : Protocol) : Undoes Protocol.read Protocol.encode protocol :=
  ⟨by cases protocol <;> rfl, rfl⟩

lemma undoes_scheme (scheme : Scheme) : Undoes Scheme.read Scheme.encode scheme :=
  ⟨by cases scheme <;> rfl, rfl⟩

/-- The quantity came out of the check of some text. -/
def Checked (quantity : Quantity) : Prop := ∃ input, Quantity.parse input = .ok quantity

lemma parse_text {quantity : Quantity} (h : Checked quantity) :
    Quantity.parse quantity.text = .ok quantity := by
  obtain ⟨input, hinput⟩ := h
  rw [text_of_parse hinput, hinput]

lemma undoes_quantity {quantity : Quantity} (h : Checked quantity) :
    Undoes Quantity.read Quantity.encode quantity where
  read_write := by
    have hread : Read.text (Quantity.encode quantity).arranged = .ok quantity.text := rfl
    rw [Quantity.read, Read.checked, hread]
    simp [parse_text h, Except.mapError, bind, Except.bind, pure, Except.pure]
  isNull_write := rfl

/-! ## Lists and maps -/

lemma items_written {read : Reader Value α} {write : α → Value} {items : List α}
    (h : ∀ a ∈ items, Undoes read write a) (index : Nat) :
    Read.items read index (items.map fun a => (write a).arranged) = .ok items := by
  induction items generalizing index with
  | nil => rfl
  | cons a rest ih =>
    obtain ⟨ha, hrest⟩ := List.forall_mem_cons.1 h
    rw [List.map_cons, Read.items, ha.read_write, ih hrest]
    rfl

lemma undoes_list {read : Reader Value α} {write : α → Value} {items : List α}
    (h : ∀ a ∈ items, Undoes read write a) : Undoes (Read.list read) (Value.ofList write) items where
  read_write := by
    rw [arranged_ofList]
    exact items_written h 0
  isNull_write := rfl

lemma entries_written {read : Reader Value α} {write : α → Value} {entries : List (String × α)}
    (h : ∀ entry ∈ entries, Undoes read write entry.2) :
    Read.entries read (entries.map fun entry => (entry.1, (write entry.2).arranged)) = .ok entries := by
  induction entries with
  | nil => rfl
  | cons entry rest ih =>
    obtain ⟨hentry, hrest⟩ := List.forall_mem_cons.1 h
    rw [List.map_cons, Read.entries, hentry.read_write, ih hrest]
    rfl

lemma undoes_map {read : Reader Value α} {write : α → Value} {map : SortedMap α}
    (h : ∀ entry ∈ map.entries, Undoes read write entry.2) :
    Undoes (Read.map read) (Value.ofMap write) map where
  read_write := by
    have hread : Read.map read (Value.ofMap write map).arranged =
        (Read.entries read (map.entries.map fun entry => (entry.1, (write entry.2).arranged))).map
          SortedMap.ofList := by
      rw [arranged_ofMap]
      rfl
    rw [hread, entries_written h, Except.map]
    exact congrArg Except.ok (sortedMap_eq_of_find (find_ofList (sorted_nodup map.sorted)))
  isNull_write := rfl

variable [Named α]

lemma undoes_named {read : Reader Value α} {write : α → Value} {list : NamedList α} (hlist : list.Coherent)
    (h : ∀ a ∈ list.toList, Undoes read write a) :
    Undoes (NamedList.read read) (NamedList.encode write) list where
  read_write := by
    have hitems : Read.list read (NamedList.encode write list).arranged = .ok list.toList :=
      (undoes_list h).read_write
    rw [NamedList.read, hitems]
    simp [ofList_toList hlist, bind, Except.bind, pure, Except.pure]
  isNull_write := rfl

end Contents

/-! ## Records -/

/-- The part is read back from what is written under its name, and it is written if it is required. -/
def RecordPart.Returns {ρ : Type} (p : RecordPart ρ) (blank x : ρ) : Prop :=
  p.Turns blank (p.node x) x ∧ (p.required = true → (p.node x).isSome = true)

section Records

variable {ρ α : Type} {name : String} {read : Reader Value α} {write : α → Value} {blank x : ρ}

lemma returns_needed {get : ρ → α} {set : α → ρ → ρ} (h : Undoes read write (get x)) :
    (RecordPart.needed name read write get set).Returns blank x := ⟨h.read_write, fun _ => rfl⟩

lemma returns_completed {get : ρ → α} {set : α → ρ → ρ} (h : Undoes read write (get x)) :
    (RecordPart.completed name read write get set).Returns blank x := ⟨h.read_write, fun _ => rfl⟩

lemma isNull_arranged (v : Value) : v.arranged.isNull = v.isNull := by
  cases v <;> rfl

lemma returns_whenPresent {get : ρ → Option α} {set : Option α → ρ → ρ} (hblank : get blank = none)
    (h : ∀ a, get x = some a → Undoes read write a) :
    (RecordPart.whenPresent name read write get set).Returns blank x := by
  refine ⟨?_, nofun⟩
  cases hx : get x with
  | none => simp [RecordPart.Turns, RecordPart.node, RecordPart.whenPresent, hx, hblank]
  | some a =>
    have ha := h a hx
    have hread : Read.optional read (write a).arranged = .ok (some a) := by
      rw [optional_of_isNull ((isNull_arranged _).trans ha.isNull_write), ha.read_write]
      rfl
    simp [RecordPart.Turns, RecordPart.node, RecordPart.whenPresent, hx, hread]

lemma returns_unlessEmpty {isEmpty : α → Bool} {get : ρ → α} {set : α → ρ → ρ}
    (hblank : isEmpty (get x) = true → get x = get blank) (h : Undoes read write (get x)) :
    (RecordPart.unlessEmpty name read write isEmpty get set).Returns blank x := by
  refine ⟨?_, nofun⟩
  cases hempty : isEmpty (get x) with
  | true => simpa [RecordPart.Turns, RecordPart.node, RecordPart.unlessEmpty, hempty] using hblank hempty
  | false => simpa [RecordPart.Turns, RecordPart.node, RecordPart.unlessEmpty, hempty] using h.read_write

lemma undoes_record {record : Record Value ρ} {encode : ρ → Value} {parts : List (RecordPart ρ)}
    (h : PartsOf record encode parts) (hparts : ∀ p ∈ parts, p.Returns record.blank x) :
    Undoes record.read encode x where
  read_write := by
    have hd : (keys (PartsOf.entriesOf parts x)).Nodup := sorted_nodup (sorted_ofList _)
    rw [h.arranged_encode]
    refine (h.ofEntries_eq_ok_iff hd x).2 ⟨fun key hkey => h.mem_keys_entriesOf hkey, ?_, ?_⟩
    · intro p hp
      rw [h.find_entriesOf hp]
      exact (hparts p hp).1
    · intro p hp
      rw [h.find_entriesOf hp]
      exact (hparts p hp).2
  isNull_write := by
    rw [h.encode_eq]
    rfl

end Records

/-! ## Templates -/

lemma undoes_mount (m : VolumeMount) : Undoes VolumeMount.record.read VolumeMount.encode m := by
  refine undoes_record partsOf_mount ?_
  simp only [mountParts, List.forall_mem_cons]
  exact ⟨returns_needed (undoes_text _), returns_whenPresent rfl fun _ _ => undoes_text _,
    returns_whenPresent rfl fun _ _ => undoes_bool _, returns_whenPresent rfl fun _ _ => undoes_text _,
    List.forall_mem_nil _⟩

lemma undoes_secret (s : SecretSource) : Undoes SecretSource.record.read SecretSource.encode s := by
  refine undoes_record partsOf_secret ?_
  simp only [secretParts, List.forall_mem_cons]
  exact ⟨returns_needed (undoes_text _), returns_whenPresent rfl fun _ _ => undoes_bool _,
    List.forall_mem_nil _⟩

lemma undoes_configMap (s : ConfigMapSource) :
    Undoes ConfigMapSource.record.read ConfigMapSource.encode s := by
  refine undoes_record partsOf_configMap ?_
  simp only [configMapParts, List.forall_mem_cons]
  exact ⟨returns_needed (undoes_text _), List.forall_mem_nil _⟩

lemma undoes_emptyDir (s : EmptyDirSource) :
    Undoes EmptyDirSource.record.read EmptyDirSource.encode s := by
  refine undoes_record partsOf_emptyDir ?_
  simp only [emptyDirParts, List.forall_mem_cons]
  exact ⟨returns_whenPresent rfl fun _ _ => undoes_text _, List.forall_mem_nil _⟩

lemma undoes_token (t : TokenProjection) :
    Undoes TokenProjection.record.read TokenProjection.encode t := by
  refine undoes_record partsOf_token ?_
  simp only [tokenParts, List.forall_mem_cons]
  exact ⟨returns_needed (undoes_text _), returns_whenPresent rfl fun _ _ => undoes_uint32 _,
    returns_whenPresent rfl fun _ _ => undoes_text _, List.forall_mem_nil _⟩

lemma undoes_projection (p : VolumeProjection) :
    Undoes VolumeProjection.record.read VolumeProjection.encode p := by
  refine undoes_record partsOf_projection ?_
  simp only [projectionParts, List.forall_mem_cons]
  exact ⟨returns_whenPresent rfl fun _ _ => undoes_token _, List.forall_mem_nil _⟩

lemma undoes_projected (s : ProjectedSource) :
    Undoes ProjectedSource.record.read ProjectedSource.encode s := by
  refine undoes_record partsOf_projected ?_
  simp only [projectedParts, List.forall_mem_cons]
  exact ⟨returns_completed (undoes_list fun _ _ => undoes_projection _), List.forall_mem_nil _⟩

lemma undoes_volume (v : Volume) : Undoes Volume.record.read Volume.encode v := by
  refine undoes_record partsOf_volume ?_
  simp only [volumeParts, List.forall_mem_cons]
  exact ⟨returns_needed (undoes_text _), returns_whenPresent rfl fun _ _ => undoes_secret _,
    returns_whenPresent rfl fun _ _ => undoes_configMap _,
    returns_whenPresent rfl fun _ _ => undoes_emptyDir _,
    returns_whenPresent rfl fun _ _ => undoes_projected _, List.forall_mem_nil _⟩

lemma undoes_envVar (v : EnvVar) : Undoes EnvVar.record.read EnvVar.encode v := by
  refine undoes_record partsOf_envVar ?_
  simp only [envVarParts, List.forall_mem_cons]
  exact ⟨returns_needed (undoes_text _), returns_whenPresent rfl fun _ _ => undoes_text _,
    List.forall_mem_nil _⟩

lemma undoes_port (p : ContainerPort) :
    Undoes ContainerPort.record.read ContainerPort.encode p := by
  refine undoes_record partsOf_port ?_
  simp only [portParts, List.forall_mem_cons]
  exact ⟨returns_whenPresent rfl fun _ _ => undoes_text _, returns_needed (undoes_uint16 _),
    returns_completed (undoes_protocol _), List.forall_mem_nil _⟩

lemma undoes_httpGet (g : HttpGet) : Undoes HttpGet.record.read HttpGet.encode g := by
  refine undoes_record partsOf_httpGet ?_
  simp only [httpGetParts, List.forall_mem_cons]
  exact ⟨returns_needed (undoes_text _), returns_needed (undoes_uint16 _),
    returns_completed (undoes_scheme _), List.forall_mem_nil _⟩

lemma undoes_tcpSocket (s : TcpSocket) : Undoes TcpSocket.record.read TcpSocket.encode s := by
  refine undoes_record partsOf_tcpSocket ?_
  simp only [tcpSocketParts, List.forall_mem_cons]
  exact ⟨returns_needed (undoes_uint16 _), List.forall_mem_nil _⟩

lemma undoes_probe (p : Probe) : Undoes Probe.record.read Probe.encode p := by
  refine undoes_record partsOf_probe ?_
  simp only [probeParts, List.forall_mem_cons]
  exact ⟨returns_whenPresent rfl fun _ _ => undoes_httpGet _,
    returns_whenPresent rfl fun _ _ => undoes_tcpSocket _,
    returns_whenPresent rfl fun _ _ => undoes_uint32 _, returns_whenPresent rfl fun _ _ => undoes_uint32 _,
    returns_whenPresent rfl fun _ _ => undoes_uint32 _, returns_whenPresent rfl fun _ _ => undoes_uint32 _,
    returns_whenPresent rfl fun _ _ => undoes_uint32 _, List.forall_mem_nil _⟩

/-- The quantities of a resource block are checked. -/
def CheckedResources (r : Resources) : Prop :=
  ∀ entry ∈ r.limits.entries ++ r.requests.entries, Checked entry.2

lemma undoes_resources {r : Resources} (h : CheckedResources r) :
    Undoes Resources.record.read Resources.encode r := by
  have hlimits : Undoes (Read.map Quantity.read) (Value.ofMap Quantity.encode) r.limits :=
    undoes_map fun entry hentry => undoes_quantity (h entry (List.mem_append_left _ hentry))
  have hrequests : Undoes (Read.map Quantity.read) (Value.ofMap Quantity.encode) r.requests :=
    undoes_map fun entry hentry => undoes_quantity (h entry (List.mem_append_right _ hentry))
  refine undoes_record partsOf_resources ?_
  simp only [resourcesParts, List.forall_mem_cons]
  exact ⟨returns_unlessEmpty sortedMap_eq_empty hlimits,
    returns_unlessEmpty sortedMap_eq_empty hrequests, List.forall_mem_nil _⟩

lemma undoes_container {c : Container} (hmounts : c.volumeMounts.Coherent)
    (hresources : ∀ r, c.resources = some r → CheckedResources r) :
    Undoes Container.record.read Container.encode c := by
  refine undoes_record partsOf_container ?_
  simp only [containerParts, List.forall_mem_cons]
  exact ⟨returns_needed (undoes_text _), returns_whenPresent rfl fun _ _ => undoes_text _,
    returns_unlessEmpty list_eq_nil (undoes_list fun _ _ => undoes_text _),
    returns_unlessEmpty list_eq_nil (undoes_list fun _ _ => undoes_envVar _),
    returns_unlessEmpty list_eq_nil (undoes_list fun _ _ => undoes_port _),
    returns_unlessEmpty namedList_eq_empty (undoes_named hmounts fun _ _ => undoes_mount _),
    returns_whenPresent rfl fun r hr => undoes_resources (hresources r hr),
    returns_whenPresent rfl fun _ _ => undoes_probe _, List.forall_mem_nil _⟩

lemma undoes_metadata (m : Metadata) : Undoes Metadata.record.read Metadata.encode m := by
  refine undoes_record partsOf_metadata ?_
  simp only [metadataParts, List.forall_mem_cons]
  exact ⟨returns_unlessEmpty sortedMap_eq_empty (undoes_map fun _ _ => undoes_text _),
    returns_unlessEmpty sortedMap_eq_empty (undoes_map fun _ _ => undoes_text _), List.forall_mem_nil _⟩

/-- The quantities of all containers are checked. -/
def CheckedPod (pod : PodTemplate) : Prop :=
  ∀ c ∈ pod.spec.initContainers.toList ++ pod.spec.containers.toList,
    ∀ r, c.resources = some r → CheckedResources r

lemma undoes_spec {pod : PodTemplate} (hcoherent : CoherentPod pod) (hchecked : CheckedPod pod) :
    Undoes PodSpec.record.read PodSpec.encode pod.spec := by
  have hinit : Undoes (NamedList.read Container.record.read) (NamedList.encode Container.encode)
      pod.spec.initContainers :=
    undoes_named hcoherent.initContainers fun c hc =>
      undoes_container (hcoherent.initMounts c hc) (hchecked c (List.mem_append_left _ hc))
  have hcontainers : Undoes (NamedList.read Container.record.read) (NamedList.encode Container.encode)
      pod.spec.containers :=
    undoes_named hcoherent.containers fun c hc =>
      undoes_container (hcoherent.mounts c hc) (hchecked c (List.mem_append_right _ hc))
  refine undoes_record partsOf_spec ?_
  simp only [specParts, List.forall_mem_cons]
  exact ⟨returns_unlessEmpty namedList_eq_empty hinit, returns_unlessEmpty namedList_eq_empty hcontainers,
    returns_unlessEmpty namedList_eq_empty (undoes_named hcoherent.volumes fun _ _ => undoes_volume _),
    returns_whenPresent rfl fun _ _ => undoes_bool _, returns_whenPresent rfl fun _ _ => undoes_text _,
    List.forall_mem_nil _⟩

lemma undoes_template {pod : PodTemplate} (hcoherent : CoherentPod pod) (hchecked : CheckedPod pod) :
    Undoes PodTemplate.record.read PodTemplate.encode pod := by
  refine undoes_record partsOf_template ?_
  simp only [templateParts, List.forall_mem_cons]
  exact ⟨returns_unlessEmpty metadata_eq_empty (undoes_metadata _),
    returns_completed (undoes_spec hcoherent hchecked), List.forall_mem_nil _⟩

/-! ## Overrides -/

lemma pod_raw_toValue {pod : PodTemplate} (hcoherent : CoherentPod pod) (hchecked : CheckedPod pod) :
    (Override.raw pod.toValue).pod = .ok pod := by
  have hread : PodTemplate.record.read pod.toValue = .ok pod :=
    (undoes_template hcoherent hchecked).read_write
  have hmapping : pod.toValue.isMapping = true := rfl
  rw [Override.pod, Override.decode, hmapping, hread]
  rfl

/-- A request with a given override. -/
def overriddenBy (request : Request) (user : Override) : Request :=
  { request with userOverride := some user }

/-- Only the template that an override stands for matters. -/
lemma gather_overriddenBy {user user' : Override} (h : user.pod = user'.pod) (platform : Platform)
    (request : Request) (ledger : Ledger) :
    platform.gather (overriddenBy request user) ledger =
      platform.gather (overriddenBy request user') ledger := by
  have hfragment : userFragment (some user) request.vars = userFragment (some user') request.vars := by
    rw [userFragment, userFragment, h]
  simp only [Platform.gather, overriddenBy, hfragment]
  rfl

/-- A template whose lists are coherent and whose quantities are checked is read back from its value, equal
in every field and in the order of all entries. So a request may give the template or its value: the layers,
the result and the ledger are the same. -/
theorem pod_toValue {pod : PodTemplate} (hcoherent : CoherentPod pod) (hchecked : CheckedPod pod) :
    (Override.raw pod.toValue).pod = .ok pod ∧
      ∀ (platform : Platform) (request : Request),
        (∀ ledger, platform.gather (overriddenBy request (.raw pod.toValue)) ledger =
          platform.gather (overriddenBy request (.typed pod)) ledger) ∧
        (∀ ledger, platform.assembleWith (overriddenBy request (.raw pod.toValue)) ledger =
          platform.assembleWith (overriddenBy request (.typed pod)) ledger) ∧
        platform.assemble (overriddenBy request (.raw pod.toValue)) =
          platform.assemble (overriddenBy request (.typed pod)) := by
  have hpod : (Override.raw pod.toValue).pod = .ok pod := pod_raw_toValue hcoherent hchecked
  refine ⟨hpod, fun platform request => ?_⟩
  have hgather (ledger : Ledger) : platform.gather (overriddenBy request (.raw pod.toValue)) ledger =
      platform.gather (overriddenBy request (.typed pod)) ledger :=
    gather_overriddenBy hpod platform request ledger
  have hassemble (ledger : Ledger) :
      platform.assembleWith (overriddenBy request (.raw pod.toValue)) ledger =
        platform.assembleWith (overriddenBy request (.typed pod)) ledger := by
    rw [Platform.assembleWith, Platform.assembleWith, hgather]
  exact ⟨hgather, hassemble, congrArg Prod.fst (hassemble platform.catalog.ledger)⟩

/-- Blocks that are there and empty, next to blocks that are absent. -/
def blockContainers : List Container := [
  { name := "kibana"
    ports := [.tcp "https" 5601]
    volumeMounts := .ofList [.atPath "scratch" "/tmp"]
    resources := some { limits := .ofList [("memory", ⟨"2Gi"⟩)] }
    readinessProbe := some {} },
  { name := "agent", resources := some {} }]

def blockVolumes : List Volume :=
  [.scratch "scratch", { name := "tokens", sources := { projected := some {} } }]

def blockPod : PodTemplate where
  spec := { containers := .ofList blockContainers, volumes := .ofList blockVolumes }

def sampleRequest : Request where
  identity := { name := "kibana-sample", version := "8.0.0" }

theorem pod_toValue_blocks :
    CoherentPod blockPod ∧ CheckedPod blockPod ∧ (Override.raw blockPod.toValue).pod = .ok blockPod ∧
      Platform.assemble {} (overriddenBy sampleRequest (.raw blockPod.toValue)) =
        Platform.assemble {} (overriddenBy sampleRequest (.typed blockPod)) := by
  have hcoherent : CoherentPod blockPod := by
    refine coherentPod_ofList [] blockContainers blockVolumes rfl rfl rfl ?_
    simp only [List.nil_append, blockContainers, List.forall_mem_cons]
    exact ⟨coherent_ofList _, coherent_empty, List.forall_mem_nil _⟩
  have hchecked : CheckedPod blockPod := by
    have hresources : ∀ c ∈ blockContainers, ∀ r, c.resources = some r → CheckedResources r := by
      simp only [blockContainers, List.forall_mem_cons, Option.some.injEq, forall_eq']
      exact ⟨List.forall_mem_singleton.2 ⟨"2Gi", rfl⟩, nofun, List.forall_mem_nil _⟩
    intro c hc
    rcases List.mem_append.1 hc with hc | hc
    · exact absurd hc List.not_mem_nil
    · exact hresources c (mem_toList_ofList hc)
  obtain ⟨hpod, hsame⟩ := pod_toValue hcoherent hchecked
  exact ⟨hcoherent, hchecked, hpod, (hsame {} sampleRequest).2.2⟩

end PodLayers.Proofs
