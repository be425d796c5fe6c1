import PodLayers.Proofs.ListJoin
import PodLayers.Proofs.UserLayer

/-!
# The order of entries

The lists of a composed pod hold every name that a layer gives, once, and in the order in which the layers,
read from the lowest upwards, first give it. The names of the lower layers therefore come first, and an entry
stays in its place whatever is laid over it. The same holds for the mounts of every container.
-/

namespace PodLayers.Proofs
open Entries Joins

/-! ## Names -/

section Names

variable {α : Type} [Named α]

/-- The names that layers give in a list, with all repetitions. -/
def layerNames (list : PodTemplate → NamedList α) (layers : List Layer) : List String :=
  (layerEntries list layers).map Named.name

lemma layerNames_append (list : PodTemplate → NamedList α) (before after : List Layer) :
    layerNames list (before ++ after) = layerNames list before ++ layerNames list after := by
  rw [layerNames, layerEntries, List.flatMap_append, List.map_append]
  rfl

omit [Named α] in
lemma toList_mapEntries (f : α → α) (list : NamedList α) : (list.mapEntries f).toList = list.toList.map f := by
  simp [NamedList.toList, NamedList.mapEntries]

lemma names_mapEntries (f : α → α) (list : NamedList α) (hf : ∀ a, Named.name (f a) = Named.name a) :
    names (list.mapEntries f) = names list := by
  rw [names, toList_mapEntries, List.map_map]
  exact List.map_congr_left fun a _ => hf a

variable [Layered α] [Joins α] [KeepsName α]

lemma coherent_list_podOf (list : PodTemplate → NamedList α) (hempty : list {} = .empty)
    (hlist : ∀ lower higher, list (join lower higher) = join (list lower) (list higher))
    (layers : List Layer) : (list (podOf layers)).Coherent := by
  rw [list_podOf list hlist, hempty]
  exact coherent_joinAll coherent_empty _

/-- A list of a stack has the names of all layers, each where it is first given. The layers need not be
coherent for this: what is laid into the empty template is filed under its own name. -/
lemma names_podOf (list : PodTemplate → NamedList α) (hempty : list {} = .empty)
    (hlist : ∀ lower higher, list (join lower higher) = join (list lower) (list higher))
    (layers : List Layer) : names (list (podOf layers)) = (layerNames list layers).eraseDups := by
  rw [names, names_toList (coherent_list_podOf list hempty hlist layers), list_podOf list hlist, hempty]
  exact keys_joinAll coherent_empty.1 (layerEntries list layers)

end Names

/-! ## Mounts -/

/-- The names of the mounts of some containers, with all repetitions. -/
def mountNames (parts : List Container) : List String := parts.flatMap fun part => names part.volumeMounts

lemma names_mounts_foldl {first : Container} (h : first.volumeMounts.Coherent) (rest : List Container) :
    names (rest.foldl join first).volumeMounts = (mountNames (first :: rest)).eraseDups := by
  have hcoherent := coherent_joinAll h (rest.flatMap fun part => part.volumeMounts.toList)
  have hrest : (rest.flatMap fun part => part.volumeMounts.toList).map Named.name = mountNames rest :=
    List.map_flatMap
  rw [mounts_foldl_join, names, names_toList hcoherent, keys_joinAll h.1, hrest, ← names_toList h]
  rfl

section Stacks

variable {list : PodTemplate → NamedList Container} {layers : List Layer}

/-- A container of a stack is made from the containers of its name, one of which there must be. -/
lemma exists_parts (hempty : list {} = .empty)
    (hlist : ∀ lower higher, list (join lower higher) = join (list lower) (list higher)) {c : Container}
    (hc : c ∈ (list (podOf layers)).toList) :
    ∃ first rest, partsNamed c.name (layerEntries list layers) = first :: rest ∧ c = rest.foldl join first := by
  have hget : (list (podOf layers)).get? c.name = some c :=
    (get_eq_some_iff (coherent_list_podOf list hempty hlist layers) _ c).2 ⟨hc, rfl⟩
  rw [list_podOf list hlist, hempty, get_joinAll_empty] at hget
  change pile (partsNamed c.name (layerEntries list layers)) = some c at hget
  cases hparts : partsNamed c.name (layerEntries list layers) with
  | nil => simp [hparts, pile] at hget
  | cons first rest =>
    rw [hparts, pile_cons] at hget
    exact ⟨first, rest, rfl, (Option.some.inj hget).symm⟩

lemma names_mounts_podOf (hempty : list {} = .empty)
    (hlist : ∀ lower higher, list (join lower higher) = join (list lower) (list higher))
    (hmounts : ∀ c ∈ layerEntries list layers, c.volumeMounts.Coherent) {c : Container}
    (hc : c ∈ (list (podOf layers)).toList) :
    names c.volumeMounts = (mountNames (partsNamed c.name (layerEntries list layers))).eraseDups := by
  obtain ⟨first, rest, hparts, hmade⟩ := exists_parts hempty hlist hc
  have hfirst : first ∈ partsNamed c.name (layerEntries list layers) := hparts ▸ List.mem_cons_self
  rw [hparts, ← names_mounts_foldl (hmounts first (List.mem_of_mem_filter hfirst)), ← hmade]

end Stacks

/-! ## Pods -/

/-- The lists of a pod hold the names of its layers, each where it is first given. -/
structure NamesOf (layers : List Layer) (pod : PodTemplate) : Prop where
  initContainers : names pod.spec.initContainers =
    (layerNames (fun pod => pod.spec.initContainers) layers).eraseDups
  containers : names pod.spec.containers = (layerNames (fun pod => pod.spec.containers) layers).eraseDups
  volumes : names pod.spec.volumes = (layerNames (fun pod => pod.spec.volumes) layers).eraseDups

/-- So do the mounts of each container, read over the containers of its name. -/
structure MountNamesOf (layers : List Layer) (pod : PodTemplate) : Prop where
  initContainers : ∀ c ∈ pod.spec.initContainers.toList, names c.volumeMounts =
    (mountNames (partsNamed c.name (layerEntries (fun pod => pod.spec.initContainers) layers))).eraseDups
  containers : ∀ c ∈ pod.spec.containers.toList, names c.volumeMounts =
    (mountNames (partsNamed c.name (layerEntries (fun pod => pod.spec.containers) layers))).eraseDups

/-- The entries of a pod stand in the same places in a pod made from it. -/
structure KeepsPlaces (below pod : PodTemplate) : Prop where
  initContainers : names below.spec.initContainers <+: names pod.spec.initContainers
  containers : names below.spec.containers <+: names pod.spec.containers
  volumes : names below.spec.volumes <+: names pod.spec.volumes

structure KeepsMountPlaces (below pod : PodTemplate) : Prop where
  initContainers : ∀ c ∈ below.spec.initContainers.toList, ∀ c' ∈ pod.spec.initContainers.toList,
    c.name = c'.name → names c.volumeMounts <+: names c'.volumeMounts
  containers : ∀ c ∈ below.spec.containers.toList, ∀ c' ∈ pod.spec.containers.toList,
    c.name = c'.name → names c.volumeMounts <+: names c'.volumeMounts

lemma namesOf_podOf (layers : List Layer) : NamesOf layers (podOf layers) where
  initContainers := names_podOf (fun pod => pod.spec.initContainers) rfl (fun _ _ => rfl) layers
  containers := names_podOf (fun pod => pod.spec.containers) rfl (fun _ _ => rfl) layers
  volumes := names_podOf (fun pod => pod.spec.volumes) rfl (fun _ _ => rfl) layers

lemma mountNamesOf_podOf {layers : List Layer}
    (hlayers : ∀ layer ∈ layers, CoherentPod layer.fragment.pod) : MountNamesOf layers (podOf layers) where
  initContainers _ hc := names_mounts_podOf rfl (fun _ _ => rfl)
    (fun _ hpart => mounts_of_mem_layerEntries hlayers (.inr hpart)) hc
  containers _ hc := names_mounts_podOf rfl (fun _ _ => rfl)
    (fun _ hpart => mounts_of_mem_layerEntries hlayers (.inl hpart)) hc

lemma NamesOf.inheritImage {layers : List Layer} {pod : PodTemplate} (h : NamesOf layers pod)
    (primary : String) : NamesOf layers (pod.inheritImage primary) := by
  have hinit := names_mapEntries (withImageOr (primaryImage primary pod)) pod.spec.initContainers fun _ => rfl
  rw [inheritImage_eq]
  exact { h with initContainers := hinit.trans h.initContainers }

lemma MountNamesOf.inheritImage {layers : List Layer} {pod : PodTemplate} (h : MountNamesOf layers pod)
    (primary : String) : MountNamesOf layers (pod.inheritImage primary) := by
  rw [inheritImage_eq]
  refine { h with initContainers := fun c hc => ?_ }
  rw [toList_mapEntries] at hc
  obtain ⟨c', hc', rfl⟩ := List.mem_map.1 hc
  exact h.initContainers c' hc'

lemma keepsPlaces_of_namesOf {before after : List Layer} {below pod : PodTemplate}
    (hbelow : NamesOf before below) (hpod : NamesOf (before ++ after) pod) : KeepsPlaces below pod where
  initContainers := by
    rw [hbelow.initContainers, hpod.initContainers, layerNames_append]
    exact eraseDups_prefix _ _
  containers := by
    rw [hbelow.containers, hpod.containers, layerNames_append]
    exact eraseDups_prefix _ _
  volumes := by
    rw [hbelow.volumes, hpod.volumes, layerNames_append]
    exact eraseDups_prefix _ _

lemma mountNames_append (list : PodTemplate → NamedList Container) (before after : List Layer) (key : String) :
    mountNames (partsNamed key (layerEntries list (before ++ after))) =
      mountNames (partsNamed key (layerEntries list before)) ++
        mountNames (partsNamed key (layerEntries list after)) := by
  rw [layerEntries, List.flatMap_append, partsNamed, List.filter_append, mountNames, List.flatMap_append]
  rfl

lemma keepsMountPlaces_of_mountNamesOf {before after : List Layer} {below pod : PodTemplate}
    (hbelow : MountNamesOf before below) (hpod : MountNamesOf (before ++ after) pod) :
    KeepsMountPlaces below pod where
  initContainers c hc c' hc' hname := by
    rw [hbelow.initContainers c hc, hpod.initContainers c' hc', hname, mountNames_append]
    exact eraseDups_prefix _ _
  containers c hc c' hc' hname := by
    rw [hbelow.containers c hc, hpod.containers c' hc', hname, mountNames_append]
    exact eraseDups_prefix _ _

lemma stackPods_before {before after : List Layer} {pod : PodTemplate}
    (h : stackPods (before ++ after) = .ok pod) : stackPods before = .ok (podOf before) := by
  rw [stackPods, List.foldlM_append, bind_eq_ok_iff] at h
  obtain ⟨below, hbelow, -⟩ := h
  obtain rfl := stackPods_eq_ok hbelow
  exact hbelow

/-- A composition that succeeds loses no entry, repeats none and moves none. -/
theorem assemble_entries {platform : Platform} {request : Request} {assembled : Assembled}
    (h : platform.assemble request = .ok assembled) :
    assembled.trail.origins = (gatheredLayers platform request).map Layer.origin ∧
      NamesOf (gatheredLayers platform request) assembled.pod ∧
      (∀ before after, gatheredLayers platform request = before ++ after →
        ∃ below, stackPods before = .ok below ∧ NamesOf before below ∧ KeepsPlaces below assembled.pod) ∧
      (CoherentCatalog platform.catalog → CoherentRequest request →
        MountNamesOf (gatheredLayers platform request) assembled.pod ∧
          ∀ before after, gatheredLayers platform request = before ++ after →
            ∀ below, stackPods before = .ok below →
              MountNamesOf before below ∧ KeepsMountPlaces below assembled.pod) := by
  obtain ⟨hissues, pod, hpod, -, rfl⟩ := (assemble_eq_ok_iff _ _ _).1 h
  obtain rfl := stackPods_eq_ok hpod
  have hnames := (namesOf_podOf (gatheredLayers platform request)).inheritImage
    platform.settings.workload.containerName
  refine ⟨rfl, hnames, ?_, ?_⟩
  · intro before after hsplit
    rw [hsplit] at hpod hnames
    refine ⟨podOf before, stackPods_before hpod, namesOf_podOf before, ?_⟩
    have hplaces := keepsPlaces_of_namesOf (namesOf_podOf before) hnames
    rwa [← hsplit] at hplaces
  · intro hcatalog huser
    have hlayers := coherent_gatheredLayers hcatalog huser hissues
    have hmounts := (mountNamesOf_podOf hlayers).inheritImage platform.settings.workload.containerName
    refine ⟨hmounts, ?_⟩
    intro before after hsplit below hbelow
    obtain rfl := stackPods_eq_ok hbelow
    have hbefore : MountNamesOf before (podOf before) := mountNamesOf_podOf fun layer hlayer =>
      hlayers layer (hsplit ▸ List.mem_append_left after hlayer)
    refine ⟨hbefore, ?_⟩
    rw [hsplit] at hmounts ⊢
    exact keepsMountPlaces_of_mountNamesOf hbefore hmounts

/-- An override with a container of its own in front of the primary one, which gets one more mount. -/
def proxyOverride : PodTemplate where
  spec :=
    { containers := .ofList [
        { name := "proxy", volumeMounts := .ofList [.atPath "proxy-certs" "/certs"] },
        { name := "kibana",
          volumeMounts := .ofList [.atPath "proxy-certs" "/certs", .atPath ClusterMonitoring.volume "/token"] }] }

def proxyRequest : Request where
  identity := { name := "kibana-sample", version := "8.0.0" }
  flags := { shardedMetrics := true }
  userOverride := some (.typed proxyOverride)

set_option maxRecDepth 4000 in
theorem assemble_entries_proxy :
    CoherentCatalog ({} : Platform).catalog ∧ CoherentRequest proxyRequest ∧
      ∃ assembled, ({} : Platform).assemble proxyRequest = .ok assembled ∧
        names assembled.pod.spec.containers = ["kibana", "kube-state-metrics", "proxy"] ∧
        (∀ c ∈ assembled.pod.spec.containers.toList, c.name = "kibana" →
          names c.volumeMounts =
            ["elastic-internal-kibana-config", "elastic-internal-monitoring-token", "proxy-certs"]) ∧
        ∃ below, stackPods ((gatheredLayers {} proxyRequest).take 2) = .ok below ∧
          KeepsPlaces below assembled.pod := by
  have huser : CoherentRequest proxyRequest := by
    intro pod hpod
    obtain rfl := Override.typed.inj (Option.some.inj hpod)
    exact coherentPod_ofList [] [_, _] [] rfl rfl rfl
      (List.forall_mem_cons.2 ⟨coherent_ofList _, List.forall_mem_singleton.2 (coherent_ofList _)⟩)
  obtain ⟨assembled, h⟩ : ∃ assembled, ({} : Platform).assemble proxyRequest = .ok assembled := ⟨_, rfl⟩
  obtain ⟨-, hnames, hplaces, hmounts⟩ := assemble_entries h
  refine ⟨coherentCatalog_builtin, huser, assembled, h, hnames.containers.trans rfl, ?_, ?_⟩
  · intro c hc hname
    rw [(hmounts coherentCatalog_builtin huser).1.containers c hc, hname]
    rfl
  · obtain ⟨below, hbelow, -, hkept⟩ := hplaces _ _ (List.take_append_drop 2 _).symm
    exact ⟨below, hbelow, hkept⟩

end PodLayers.Proofs
