import PodLayers.Proofs.ReservedNames

/-!
# Mounts and their volumes

Mounts name volumes of the pod. Stacking layers adds no mount that was not in some layer and loses no volume,
so a stack in whose layers every mount has its volume makes a pod without dangling mounts. Each of the
built-in layers brings the volumes that it mounts.
-/

namespace PodLayers.Proofs
open Joins

/-- The volumes that the mounts of a pod name, with all repetitions. -/
def mountedVolumes (pod : PodTemplate) : List String :=
  mountNames (pod.spec.initContainers.toList ++ pod.spec.containers.toList)

/-- Every mount of the pod names one of its volumes. -/
def MountsResolved (pod : PodTemplate) : Prop := ∀ name ∈ mountedVolumes pod, name ∈ names pod.spec.volumes

/-- Some layer brings a volume of this name. -/
def BringsVolume (layers : List Layer) (name : String) : Prop :=
  ∃ layer ∈ layers, name ∈ names layer.fragment.pod.spec.volumes

/-- Every mount of a layer names a volume that some layer brings. -/
def MountsBacked (layers : List Layer) : Prop :=
  ∀ layer ∈ layers, ∀ name ∈ mountedVolumes layer.fragment.pod, BringsVolume layers name

/-! ## Stacks -/

section Joined

variable {α : Type} [Named α] [Layered α] [Joins α] [KeepsName α]

lemma name_laidOver {held : Option α} {a b : α} (h : laidOver held a = b) :
    Named.name b = Named.name a ∨ ∃ lower, held = some lower ∧ Named.name b = Named.name lower := by
  subst h
  cases held with
  | none => exact .inl rfl
  | some lower => exact .inr ⟨lower, rfl, KeepsName.name_join lower a⟩

/-- A join has no name that neither side has. The lists need not be coherent. -/
lemma mem_names_joinAll {list : NamedList α} {items : List α} {name : String}
    (h : name ∈ names (joinAll list items)) : name ∈ names list ∨ name ∈ items.map Named.name := by
  induction items generalizing list with
  | nil => exact .inl h
  | cons a rest ih =>
    rw [List.map_cons, List.mem_cons]
    rcases ih h with h | h
    · obtain ⟨b, hb, rfl⟩ := List.mem_map.1 h
      obtain ⟨key, hentry⟩ := (mem_toList_iff _ _).1 hb
      rcases mem_assign hentry with hnew | hold
      · have hlaid : laidOver (list.get? (Named.name a)) a = b := (Prod.mk.inj hnew).2.symm
        rcases name_laidOver hlaid with hname | ⟨lower, hheld, hname⟩
        · exact .inr (.inl hname)
        · exact .inl (hname ▸ List.mem_map_of_mem (mem_of_get hheld))
      · exact .inl (List.mem_map_of_mem ((mem_toList_iff _ _).2 ⟨key, hold⟩))
    · exact .inr (.inr h)

end Joined

lemma mem_mountNames {parts : List Container} {name : String} :
    name ∈ mountNames parts ↔ ∃ part ∈ parts, name ∈ names part.volumeMounts := List.mem_flatMap

lemma mem_mountedVolumes {pod : PodTemplate} {name : String} :
    name ∈ mountedVolumes pod ↔
      (∃ c ∈ pod.spec.initContainers.toList, name ∈ names c.volumeMounts) ∨
        ∃ c ∈ pod.spec.containers.toList, name ∈ names c.volumeMounts := by
  rw [mountedVolumes, mem_mountNames]
  simp only [List.mem_append, or_and_right, exists_or]

section Stacks

variable {layers : List Layer} {name : String}

/-- A mount of a stacked container stands in a container of some layer, in the same list. -/
lemma exists_mount_of_podOf (list : PodTemplate → NamedList Container) (hempty : list {} = .empty)
    (hlist : ∀ lower higher, list (join lower higher) = join (list lower) (list higher)) {c : Container}
    (hc : c ∈ (list (podOf layers)).toList) (hname : name ∈ names c.volumeMounts) :
    ∃ layer ∈ layers, ∃ part ∈ (list layer.fragment.pod).toList, name ∈ names part.volumeMounts := by
  obtain ⟨first, rest, hparts, rfl⟩ := exists_parts hempty hlist hc
  have hpart : ∃ part ∈ first :: rest, name ∈ names part.volumeMounts := by
    rw [mounts_foldl_join] at hname
    rcases mem_names_joinAll hname with hname | hname
    · exact ⟨first, List.mem_cons_self, hname⟩
    · obtain ⟨mount, hmount, rfl⟩ := List.mem_map.1 hname
      obtain ⟨part, hpart, hmount⟩ := List.mem_flatMap.1 hmount
      exact ⟨part, List.mem_cons_of_mem _ hpart, List.mem_map_of_mem hmount⟩
  obtain ⟨part, hpart, hname⟩ := hpart
  rw [← hparts] at hpart
  obtain ⟨layer, hlayer, hpart⟩ := List.mem_flatMap.1 (List.mem_of_mem_filter hpart)
  exact ⟨layer, hlayer, part, hpart, hname⟩

/-- Stacking makes up no mount. -/
lemma exists_layer_of_mounted (h : name ∈ mountedVolumes (podOf layers)) :
    ∃ layer ∈ layers, name ∈ mountedVolumes layer.fragment.pod := by
  rcases mem_mountedVolumes.1 h with ⟨c, hc, hname⟩ | ⟨c, hc, hname⟩
  · obtain ⟨layer, hlayer, part, hpart, hname⟩ :=
      exists_mount_of_podOf (fun pod => pod.spec.initContainers) rfl (fun _ _ => rfl) hc hname
    exact ⟨layer, hlayer, mem_mountedVolumes.2 (.inl ⟨part, hpart, hname⟩)⟩
  · obtain ⟨layer, hlayer, part, hpart, hname⟩ :=
      exists_mount_of_podOf (fun pod => pod.spec.containers) rfl (fun _ _ => rfl) hc hname
    exact ⟨layer, hlayer, mem_mountedVolumes.2 (.inr ⟨part, hpart, hname⟩)⟩

/-- Stacking loses no volume. -/
lemma volume_podOf (h : BringsVolume layers name) : name ∈ names (podOf layers).spec.volumes := by
  obtain ⟨layer, hlayer, hname⟩ := h
  rw [(namesOf_podOf layers).volumes, List.mem_eraseDups, layerNames, layerEntries, List.map_flatMap]
  exact List.mem_flatMap.2 ⟨layer, hlayer, hname⟩

lemma mountsResolved_podOf (h : MountsBacked layers) : MountsResolved (podOf layers) := by
  intro name hname
  obtain ⟨layer, hlayer, hmounted⟩ := exists_layer_of_mounted hname
  exact volume_podOf (h layer hlayer name hmounted)

/-- The image that init containers inherit does not touch their mounts. -/
lemma mountedVolumes_inheritImage (pod : PodTemplate) (primary : String) :
    mountedVolumes (pod.inheritImage primary) = mountedVolumes pod := by
  rw [inheritImage_eq, mountedVolumes, mountedVolumes, mountNames, mountNames, toList_mapEntries,
    List.flatMap_append, List.flatMap_append, List.flatMap_map]
  rfl

lemma mountsResolved_inheritImage {pod : PodTemplate} (h : MountsResolved pod) (primary : String) :
    MountsResolved (pod.inheritImage primary) := by
  intro name hname
  rw [mountedVolumes_inheritImage] at hname
  rw [inheritImage_eq]
  exact h name hname

end Stacks

/-! ## Requests -/

section Requests

/-- Every built-in layer brings the volumes that it mounts, whatever the settings call them. -/
lemma mountsResolved_builtin (ctx : Context) (keys : List PresetKey) :
    ∀ layer ∈ builtinLayers ctx keys, MountsResolved layer.fragment.pod := by
  by_contra hdangling
  push Not at hdangling
  have hcases := (exists_builtinLayer_iff ctx keys fun pod => ¬MountsResolved pod).1 hdangling
  rcases hcases with h | ⟨-, h⟩ | ⟨-, h⟩ | ⟨-, h⟩ | ⟨-, h⟩ <;> apply h
  · exact fun _ hname => hname
  · exact fun _ hname => hname
  · exact fun _ hname => absurd hname List.not_mem_nil
  · exact fun _ hname => absurd hname List.not_mem_nil
  · exact fun _ hname => hname

/-- Every mount of the override has its volume in the override or in a layer below it. -/
def OverrideBacked (platform : Platform) (request : Request) : Prop :=
  ∀ userOverride user, request.userOverride = some userOverride → userOverride.pod = .ok user →
    ∀ name ∈ mountedVolumes user,
      name ∈ names user.spec.volumes ∨ BringsVolume (gatheredLayers platform (withoutUser request)) name

variable {request : Request}

lemma gatheredLayers_append_written (platform : Platform) (request : Request) :
    gatheredLayers platform request =
      gatheredLayers platform (withoutUser request) ++ writtenLayers request := by
  have hbelow : requestLayers platform (withoutUser request) = defaultLayer platform request ::
      layersOf platform.catalog (platform.context request) (platform.asked request) := List.append_nil _
  rw [(gathered_eq platform request).1, (gathered_eq platform (withoutUser request)).1, hbelow]
  rfl

lemma mem_writtenLayers {layer : Layer} (h : layer ∈ writtenLayers request) :
    (request.userOverride = none ∧ layer.fragment.pod = {}) ∨
      ∃ userOverride user, request.userOverride = some userOverride ∧ userOverride.pod = .ok user ∧
        layer.fragment.pod = user := by
  unfold writtenLayers userFragment at h
  cases hoverride : request.userOverride with
  | none =>
    refine .inl ⟨rfl, ?_⟩
    cases hvars : request.vars <;> simp [hoverride, hvars, userLayers] at h
    rw [h]
  | some userOverride =>
    cases hpod : userOverride.pod with
    | error issue => simp [hoverride, hpod, Except.map] at h
    | ok user =>
      simp only [hoverride, hpod, Except.map, userLayers, Option.map_some, Option.toList_some,
        List.mem_singleton] at h
      exact .inr ⟨userOverride, user, rfl, hpod, by rw [h]⟩

lemma mountsBacked_builtin (settings : Settings) (h : OverrideBacked { settings } request) :
    MountsBacked (gatheredLayers { settings } request) := by
  have hbelow : gatheredLayers { settings } (withoutUser request) =
      builtinLayers (({ settings } : Platform).context request) (({ settings } : Platform).asked request) :=
    (gathered_eq _ _).1.trans (requestLayers_builtin settings request)
  have hsplit := gatheredLayers_append_written { settings } request
  have hbrings {name : String} (hname : BringsVolume (gatheredLayers { settings } (withoutUser request)) name) :
      BringsVolume (gatheredLayers { settings } request) name := by
    obtain ⟨layer, hlayer, hname⟩ := hname
    exact ⟨layer, hsplit ▸ List.mem_append_left _ hlayer, hname⟩
  intro layer hlayer name hname
  rcases List.mem_append.1 (hsplit ▸ hlayer) with hlower | hwritten
  · rw [hbelow] at hlower
    exact ⟨layer, hlayer, mountsResolved_builtin _ _ layer hlower name hname⟩
  · rcases mem_writtenLayers hwritten with ⟨-, hpod⟩ | ⟨userOverride, user, hoverride, hread, hpod⟩
    · rw [hpod] at hname
      exact absurd hname List.not_mem_nil
    · rw [hpod] at hname
      rcases h userOverride user hoverride hread name hname with hown | hlower
      · exact ⟨layer, hlayer, hpod ▸ hown⟩
      · exact hbrings hlower

end Requests

lemma mountsResolved_of_stackPods {layers : List Layer} {pod : PodTemplate} (h : MountsBacked layers)
    (hpod : stackPods layers = .ok pod) : MountsResolved pod :=
  stackPods_eq_ok hpod ▸ mountsResolved_podOf h

lemma mountsResolved_of_assembleLayers {target : Target} {primary : String} {layers : List Layer}
    {assembled : Assembled} (h : MountsBacked layers)
    (hassembled : assembleLayers target primary layers = .ok assembled) : MountsResolved assembled.pod := by
  obtain ⟨pod, hpod, -, rfl⟩ := (assembleLayers_eq_ok_iff _ _ _ _).1 hassembled
  exact mountsResolved_inheritImage (mountsResolved_of_stackPods h hpod) primary

lemma mountsResolved_of_assemble {platform : Platform} {request : Request} {assembled : Assembled}
    (h : MountsBacked (gatheredLayers platform request))
    (hassembled : platform.assemble request = .ok assembled) : MountsResolved assembled.pod := by
  obtain ⟨-, pod, hpod, -, rfl⟩ := (assemble_eq_ok_iff _ _ _).1 hassembled
  exact mountsResolved_inheritImage (mountsResolved_of_stackPods h hpod) _

/-- When every mount of the layers names a volume of some layer, no mount of the stack dangles, before and
after its names are checked. The layers of the built-in presets are of this kind, and they stay so under an
override whose mounts name volumes of its own or of a layer below. -/
theorem assemble_mounts :
    (∀ layers, MountsBacked layers →
      (∀ pod, stackPods layers = .ok pod → MountsResolved pod) ∧
        ∀ target primary assembled, assembleLayers target primary layers = .ok assembled →
          MountsResolved assembled.pod) ∧
    ∀ settings request assembled, ({ settings } : Platform).assemble request = .ok assembled →
      (request.userOverride = none →
        MountsBacked (gatheredLayers { settings } request) ∧ MountsResolved assembled.pod) ∧
      (OverrideBacked { settings } request →
        MountsBacked (gatheredLayers { settings } request) ∧ MountsResolved assembled.pod) := by
  refine ⟨fun layers h => ⟨fun pod => mountsResolved_of_stackPods h,
    fun target primary assembled => mountsResolved_of_assembleLayers h⟩, ?_⟩
  intro settings request assembled hassembled
  have hbacked (h : OverrideBacked { settings } request) :
      MountsBacked (gatheredLayers { settings } request) ∧ MountsResolved assembled.pod :=
    ⟨mountsBacked_builtin settings h, mountsResolved_of_assemble (mountsBacked_builtin settings h) hassembled⟩
  refine ⟨fun hnone => hbacked ?_, hbacked⟩
  intro userOverride user hoverride
  rw [hnone] at hoverride
  cases hoverride

/-- An override that mounts the token of a layer below it and a volume of its own. -/
def loggingOverride : PodTemplate where
  spec :=
    { containers := .ofList [
        { name := "audit", image := some "audit:1",
          volumeMounts := .ofList [.atPath ClusterMonitoring.volume "/token", .atPath "audit-log" "/log"] }]
      volumes := .ofList [.scratch "audit-log"] }

def loggingRequest : Request where
  identity := { name := "kibana-sample", version := "8.0.0" }
  flags := { keystore := true, leaderElection := true }
  userOverride := some (.typed loggingOverride)

set_option maxRecDepth 4000 in
theorem assemble_mounts_logging :
    ∃ assembled, ({} : Platform).assemble loggingRequest = .ok assembled ∧
      OverrideBacked {} loggingRequest ∧ MountsBacked (gatheredLayers {} loggingRequest) ∧
      (∀ pod, stackPods (gatheredLayers {} loggingRequest) = .ok pod → MountsResolved pod) ∧
      MountsResolved assembled.pod ∧
      mountedVolumes assembled.pod =
        ["elastic-internal-secure-settings", "elastic-internal-kibana-config",
          "elastic-internal-monitoring-token", "elastic-internal-monitoring-token", "audit-log"] := by
  obtain ⟨assembled, h, hmounted⟩ :
      ∃ assembled, ({} : Platform).assemble loggingRequest = .ok assembled ∧
        mountedVolumes assembled.pod =
          ["elastic-internal-secure-settings", "elastic-internal-kibana-config",
            "elastic-internal-monitoring-token", "elastic-internal-monitoring-token", "audit-log"] :=
    ⟨_, rfl, rfl⟩
  have hbacked : OverrideBacked {} loggingRequest := by
    intro userOverride user hoverride hpod name hname
    obtain rfl := Option.some.inj hoverride
    obtain rfl := Except.ok.inj hpod
    rcases List.mem_cons.1 hname with rfl | hname
    · refine .inr ⟨⟨.addon Preset.clusterMonitoringKey,
        ClusterMonitoring.fragment (Platform.context {} loggingRequest)⟩, ?_, List.mem_singleton_self _⟩
      exact List.mem_cons_of_mem _ (List.mem_cons_of_mem _ List.mem_cons_self)
    · exact .inl hname
  obtain ⟨hlayers, hresolved⟩ := (assemble_mounts.2 {} loggingRequest assembled h).2 hbacked
  exact ⟨assembled, h, hbacked, hlayers, (assemble_mounts.1 _ hlayers).1, hresolved, hmounted⟩

end PodLayers.Proofs
