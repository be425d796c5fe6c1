import PodLayers.Proofs.RecordParts
import PodLayers.Proofs.SettingSources

/-!
# The settings part by part

A table of settings is read key by key: what stands under the name of a field decides the content of this
field alone, and a field without a value keeps that of the blank record.
-/

namespace PodLayers.Proofs
open Entries

/-- The content is what a node says, or the fallback where there is no node. -/
def Settled {α : Type} (read : Reader Setting α) (fallback : Option α) (node : Option Setting)
    (content : Option α) : Prop :=
  match node with
  | some setting => ∃ a, read setting = .ok a ∧ content = some a
  | none => content = fallback

/-- Two contents from one fallback agree where one node hides the other's. -/
lemma Settled.of_or {α : Type} {read : Reader Setting α} {fallback lower content : Option α}
    {held given : Option Setting} (hlower : Settled read fallback held lower)
    (h : Settled read fallback (given.or held) content) : Settled read lower given content := by
  cases given with
  | some setting => exact h
  | none =>
    cases held with
    | none => exact Eq.trans h (Eq.symm hlower)
    | some setting =>
      obtain ⟨a, ha, hlower⟩ := hlower
      obtain ⟨b, hb, hcontent⟩ := h
      obtain rfl : a = b := Except.ok.inj (ha.symm.trans hb)
      exact hcontent.trans hlower.symm

/-! ## Records -/

/-- A field of a record, which no other field touches. -/
structure SettingPart (ρ : Type) where
  Content : Type
  name : String
  read : Reader Setting Content
  get : ρ → Content
  set : Content → ρ → ρ

def SettingPart.field {ρ : Type} (p : SettingPart ρ) : Field Setting ρ := Field.defaulted p.name p.read p.set

/-- A record of settings that consists of parts. -/
structure ConsistsOf {ρ : Type} (record : Record Setting ρ) (parts : List (SettingPart ρ)) : Prop where
  fields : record.fields = parts.map SettingPart.field
  nodup : (parts.map SettingPart.name).Nodup
  get_set : ∀ p ∈ parts, ∀ a x, p.get (p.set a x) = a
  get_set_other : ∀ p ∈ parts, ∀ q ∈ parts, p.name ≠ q.name → ∀ a x, q.get (p.set a x) = q.get x

namespace ConsistsOf

variable {ρ : Type} {record : Record Setting ρ} {parts : List (SettingPart ρ)}

lemma exists_part_of_visit (h : ConsistsOf record parts) {draft next : ρ} {entry : String × Setting}
    (hvisit : record.visit draft entry = .ok next) :
    ∃ p ∈ parts, p.name = entry.1 ∧ ∃ a, p.read entry.2 = .ok a ∧ p.set a draft = next := by
  obtain ⟨field, hfield, hname, hput⟩ := exists_field_of_visit hvisit
  rw [h.fields] at hfield
  obtain ⟨p, hp, rfl⟩ := List.mem_map.1 hfield
  exact ⟨p, hp, hname, (map_eq_ok_iff _ _ _).1 hput⟩

lemma settled_of_visit (h : ConsistsOf record parts) {p : SettingPart ρ} (hp : p ∈ parts) {draft next : ρ}
    {key : String} {setting : Setting} (hvisit : record.visit draft (key, setting) = .ok next) :
    Settled p.read (some (p.get draft)) (if key = p.name then some setting else none)
      (some (p.get next)) := by
  obtain ⟨q, hq, rfl, a, ha, rfl⟩ := h.exists_part_of_visit hvisit
  by_cases hname : q.name = p.name
  · obtain rfl : q = p := List.inj_on_of_nodup_map h.nodup hq hp hname
    rw [if_pos rfl]
    exact ⟨a, ha, congrArg some (h.get_set q hq a draft)⟩
  · rw [if_neg hname]
    exact congrArg some (h.get_set_other q hq p hp hname a draft)

lemma settled_of_foldlM (h : ConsistsOf record parts) {p : SettingPart ρ} (hp : p ∈ parts)
    {entries : List (String × Setting)} (hd : (keys entries).Nodup) {draft x : ρ}
    (hread : entries.foldlM record.visit draft = .ok x) :
    Settled p.read (some (p.get draft)) (find? p.name entries) (some (p.get x)) := by
  induction entries generalizing draft with
  | nil =>
    obtain rfl : draft = x := Except.ok.inj hread
    rfl
  | cons entry rest ih =>
    obtain ⟨key, setting⟩ := entry
    obtain ⟨hkey, hrest⟩ : key ∉ keys rest ∧ (keys rest).Nodup := by simpa [keys] using hd
    rw [List.foldlM_cons, bind_eq_ok_iff] at hread
    obtain ⟨next, hvisit, hread⟩ := hread
    have hhere := h.settled_of_visit hp hvisit
    have hlater := ih hrest hread
    rw [find_cons]
    by_cases hname : key = p.name
    · rw [if_pos hname] at hhere ⊢
      -- the key does not come again, so the content stays
      rw [(find_eq_none_iff _ _).2 (hname ▸ hkey)] at hlater
      obtain ⟨a, ha, hnext⟩ := hhere
      exact ⟨a, ha, Eq.trans hlater hnext⟩
    · rw [if_neg hname] at hhere ⊢
      have hnext : some (p.get next) = some (p.get draft) := hhere
      rwa [hnext] at hlater

lemma settled_of_read (h : ConsistsOf record parts) {p : SettingPart ρ} (hp : p ∈ parts) {source : Source}
    {entries : List (String × Setting)} (hd : (keys entries).Nodup) {x : ρ}
    (hread : record.read (.table source entries) = .ok x) :
    Settled p.read (some (p.get record.blank)) (find? p.name entries) (some (p.get x)) := by
  have hfold : entries.foldlM record.visit record.blank = .ok x := foldlM_of_ofEntries hread
  exact h.settled_of_foldlM hp hd hfold

end ConsistsOf

/-! ## Maps -/

lemma settled_of_rel {α : Type} {read : Reader Setting α} {node : Option Setting} {content : Option α}
    (h : Option.Rel (fun setting a => read setting = .ok a) node content) :
    Settled read none node content := by
  cases h with
  | none => rfl
  | some hread => exact ⟨_, hread, rfl⟩

lemma settled_of_map {α : Type} {read : Reader Setting α} {source : Source}
    {entries : List (String × Setting)} (hd : (keys entries).Nodup) {map : SortedMap α}
    (hread : Read.map read (.table source entries) = .ok map) (key : String) :
    Settled read none (find? key entries) (map.find? key) := by
  obtain ⟨contents, hcontents, rfl⟩ := (map_eq_ok_iff _ _ _).1 hread
  obtain ⟨hkeys, hrel⟩ := entries_rel hcontents
  have hfind : (SortedMap.ofList contents).find? key = find? key contents :=
    find_ofList (hkeys ▸ hd) key
  rw [hfind]
  exact settled_of_rel (hrel key)

/-! ## The records of the settings -/

def workloadParts : List (SettingPart Workload) := [
  ⟨String, "container_name", Read.text, Workload.containerName,
    fun containerName w => { w with containerName }⟩,
  ⟨String, "short_name", Read.text, Workload.shortName, fun shortName w => { w with shortName }⟩,
  ⟨String, "image_repository", Read.text, Workload.imageRepository,
    fun imageRepository w => { w with imageRepository }⟩,
  ⟨UInt16, "http_port", Read.uint16, Workload.httpPort, fun httpPort w => { w with httpPort }⟩,
  ⟨String, "port_name", Read.text, Workload.portName, fun portName w => { w with portName }⟩,
  ⟨Scheme, "readiness_scheme", Scheme.read, Workload.readinessScheme,
    fun readinessScheme w => { w with readinessScheme }⟩,
  ⟨String, "readiness_path", Read.text, Workload.readinessPath,
    fun readinessPath w => { w with readinessPath }⟩,
  ⟨String, "config_volume_name", Read.text, Workload.configVolumeName,
    fun configVolumeName w => { w with configVolumeName }⟩,
  ⟨String, "config_mount_path", Read.text, Workload.configMountPath,
    fun configMountPath w => { w with configMountPath }⟩,
  ⟨String, "label_domain", Read.text, Workload.labelDomain, fun labelDomain w => { w with labelDomain }⟩,
  ⟨String, "type_label_value", Read.text, Workload.typeLabelValue,
    fun typeLabelValue w => { w with typeLabelValue }⟩]

lemma consistsOf_workload : ConsistsOf Workload.record workloadParts where
  fields := rfl
  nodup := by decide
  get_set := by simp [workloadParts]
  get_set_other := by simp [workloadParts]

def shardShimParts : List (SettingPart ShardShim) := [
  ⟨String, "container_name", Read.text, ShardShim.containerName,
    fun containerName s => { s with containerName }⟩,
  ⟨String, "image", Read.text, ShardShim.image, fun image s => { s with image }⟩,
  ⟨UInt16, "port", Read.uint16, ShardShim.port, fun port s => { s with port }⟩]

lemma consistsOf_shardShim : ConsistsOf ShardShim.record shardShimParts where
  fields := rfl
  nodup := by decide
  get_set := by simp [shardShimParts]
  get_set_other := by simp [shardShimParts]

def monitoringParts : List (SettingPart Monitoring) := [
  ⟨String, "period", Read.text, Monitoring.period, fun period m => { m with period }⟩,
  ⟨String, "token_dir", Read.text, Monitoring.tokenDir, fun tokenDir m => { m with tokenDir }⟩,
  ⟨UInt32, "token_expiration_seconds", Read.uint32, Monitoring.tokenExpirationSeconds,
    fun tokenExpirationSeconds m => { m with tokenExpirationSeconds }⟩,
  ⟨String, "default_output", Read.text, Monitoring.defaultOutput,
    fun defaultOutput m => { m with defaultOutput }⟩]

lemma consistsOf_monitoring : ConsistsOf Monitoring.record monitoringParts where
  fields := rfl
  nodup := by decide
  get_set := by simp [monitoringParts]
  get_set_other := by simp [monitoringParts]

def resourceParts : List (SettingPart Resources) := [
  ⟨SortedMap Quantity, "limits", Read.map Quantity.read, Resources.limits, fun limits r => { r with limits }⟩,
  ⟨SortedMap Quantity, "requests", Read.map Quantity.read, Resources.requests,
    fun requests r => { r with requests }⟩]

lemma consistsOf_resources : ConsistsOf Resources.record resourceParts where
  fields := rfl
  nodup := by decide
  get_set := by simp [resourceParts]
  get_set_other := by simp [resourceParts]

def settingsParts : List (SettingPart Settings) := [
  ⟨Workload, "workload", Workload.record.read, Settings.workload, fun workload s => { s with workload }⟩,
  ⟨Resources, "default_resources", Resources.record.read, Settings.defaultResources,
    fun defaultResources s => { s with defaultResources }⟩,
  ⟨ShardShim, "shard_shim", ShardShim.record.read, Settings.shardShim,
    fun shardShim s => { s with shardShim }⟩,
  ⟨Monitoring, "monitoring", Monitoring.record.read, Settings.monitoring,
    fun monitoring s => { s with monitoring }⟩]

lemma consistsOf_settings : ConsistsOf Settings.record settingsParts where
  fields := rfl
  nodup := by decide
  get_set := by simp [settingsParts]
  get_set_other := by simp [settingsParts]

end PodLayers.Proofs
