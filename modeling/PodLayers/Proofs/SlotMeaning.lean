import PodLayers.Proofs.GatheredLayers
import PodLayers.Proofs.OverlayJoin

/-!
# What each slot of a composed pod holds

The layers of a composition are read once, in their order. For every name of a list, what the composed pod
holds under it is described by the parts of that name alone: concatenations, last set values and blocks
taken whole.
-/

namespace PodLayers.Proofs
open Entries Joins

/-! ## Last set values -/

section LastSet

variable {α β : Type}

/-- The value of the last part that sets it. -/
def lastSet (f : α → Option β) (parts : List α) : Option β := (parts.filterMap f).getLast?

lemma lastSet_cons (f : α → Option β) (a : α) (rest : List α) :
    lastSet f (a :: rest) = (lastSet f rest).or (f a) := by
  unfold lastSet
  cases h : f a with
  | none => simp [List.filterMap_cons_none h]
  | some b => cases hrest : List.filterMap f rest <;> simp [h, hrest, List.getLast?_cons]

lemma lastSet_eq_none_iff (f : α → Option β) (parts : List α) :
    lastSet f parts = none ↔ ∀ part ∈ parts, f part = none := by
  rw [lastSet, List.getLast?_eq_none_iff, List.filterMap_eq_nil_iff]

lemma foldl_or (f : α → Option β) (parts : List α) (start : Option β) :
    parts.foldl (fun held a => (f a).or held) start = (lastSet f parts).or start := by
  induction parts generalizing start with
  | nil => rfl
  | cons a rest ih => rw [List.foldl_cons, ih, lastSet_cons, Option.or_assoc]

lemma foldl_getD (f : α → Option β) (parts : List α) (start : β) :
    parts.foldl (fun held a => (f a).getD held) start = (lastSet f parts).getD start := by
  induction parts generalizing start with
  | nil => rfl
  | cons a rest ih =>
    rw [List.foldl_cons, ih, lastSet_cons]
    cases lastSet f rest <;> rfl

end LastSet

/-! ## Parts of one name -/

section Parts

variable {α : Type} [Named α]

/-- Nothing is held when there are no parts, and otherwise a value that is made from them. -/
def Fills (Made : List α → α → Prop) (parts : List α) (held : Option α) : Prop :=
  match held with
  | none => parts = []
  | some a => parts ≠ [] ∧ Made parts a

variable [Layered α] [Joins α]

lemma get_joinAll_empty (items : List α) (key : String) :
    (joinAll .empty items).get? key = pile (partsNamed key items) := get_joinAll .empty items key

lemma get_joinAll_of_coherent {list : NamedList α} (h : list.Coherent) (items : List α) (key : String) :
    (joinAll list items).get? key = pile (partsNamed key (list.toList ++ items)) := by
  rw [get_joinAll, partsNamed, List.filter_append, pile, List.foldl_append]
  congr 1
  change _ = pile (partsNamed key list.toList)
  rw [partsNamed_of_coherent h]
  cases list.get? key <;> rfl

omit [Named α] in
lemma fills_pile {Made : List α → α → Prop} {parts : List α}
    (h : ∀ first rest, parts = first :: rest → Made parts (rest.foldl join first)) :
    Fills Made parts (pile parts) := by
  cases parts with
  | nil => rfl
  | cons first rest =>
    rw [pile_cons]
    exact ⟨by simp, h first rest rfl⟩

omit [Named α] [Layered α] [Joins α] in
lemma fills_map {Made Made' : List α → α → Prop} {parts : List α} {held : Option α} {f : α → α}
    (h : Fills Made parts held) (hf : ∀ a, Made parts a → Made' parts (f a)) :
    Fills Made' parts (held.map f) := by
  cases held with
  | none => exact h
  | some a => exact ⟨h.1, hf a h.2⟩

end Parts

/-! ## What is made from parts -/

/-- A mount made from the mounts of one name: each field has the last value set for it. -/
structure MountOf (parts : List VolumeMount) (mount : VolumeMount) : Prop where
  mountPath : mount.mountPath = lastSet VolumeMount.mountPath parts
  readOnly : mount.readOnly = lastSet VolumeMount.readOnly parts
  subPath : mount.subPath = lastSet VolumeMount.subPath parts

/-- A container made from the containers of one name, but for its image. -/
structure ContainerOf (parts : List Container) (c : Container) : Prop where
  command : c.command =
    (lastSet (fun part => Option.guard (fun command => !command.isEmpty) part.command) parts).getD []
  env : c.env = parts.flatMap Container.env
  ports : c.ports = parts.flatMap Container.ports
  resources : c.resources =
    (lastSet (fun part => part.resources.filter Resources.isSet) parts).or
      (parts.head?.bind Container.resources)
  readinessProbe : c.readinessProbe = lastSet Container.readinessProbe parts
  mount : ∀ key, Fills (fun mounts mount => mount.name = key ∧ MountOf mounts mount)
    (partsNamed key (parts.flatMap fun part => part.volumeMounts.toList)) (c.volumeMounts.get? key)

/-- A volume made from the volumes of one name: the last sources that are set, taken whole. -/
def VolumeOf (parts : List Volume) (volume : Volume) : Prop :=
  volume.sources =
    (lastSet (fun part => Option.guard VolumeSources.isSet part.sources) parts).getD {}

/-! ## Slots of a join -/

section Slots

variable {α β : Type} [Layered α] [Joins α]

lemma part_foldl_join (part : α → β) (step : β → α → β)
    (h : ∀ lower higher, part (join lower higher) = step (part lower) higher) (first : α) (rest : List α) :
    part (rest.foldl join first) = rest.foldl step (part first) :=
  (List.foldl_hom part fun lower higher => (h lower higher).symm).symm

lemma lastSet_foldl_join (part : α → Option β)
    (h : ∀ lower higher, part (join lower higher) = (part higher).or (part lower)) (first : α)
    (rest : List α) : part (rest.foldl join first) = lastSet part (first :: rest) := by
  rw [part_foldl_join part (fun held a => (part a).or held) h, foldl_or, lastSet_cons]

lemma flatMap_foldl_join (part : α → List β)
    (h : ∀ lower higher, part (join lower higher) = part lower ++ part higher) (first : α)
    (rest : List α) : part (rest.foldl join first) = (first :: rest).flatMap part := by
  rw [part_foldl_join part (fun held a => held ++ part a) h, List.foldl_append_eq_append, List.flatMap_cons]
  rfl

/-- A slot that only a value which counts can replace. The first value stands whether or not it counts, and
one that does not count is the default. -/
lemma lastCounting_foldl_join (part : α → β) (counts : α → Option β) (default : β)
    (hdefault : ∀ a, (counts a).getD default = part a)
    (h : ∀ lower higher, part (join lower higher) = (counts higher).getD (part lower)) (first : α)
    (rest : List α) : part (rest.foldl join first) = (lastSet counts (first :: rest)).getD default := by
  rw [part_foldl_join part (fun held a => (counts a).getD held) h, foldl_getD, lastSet_cons]
  cases lastSet counts rest with
  | some b => rfl
  | none => exact (hdefault first).symm

end Slots

lemma mountOf_foldl (first : VolumeMount) (rest : List VolumeMount) :
    MountOf (first :: rest) (rest.foldl join first) where
  mountPath := lastSet_foldl_join VolumeMount.mountPath (fun _ _ => rfl) first rest
  readOnly := lastSet_foldl_join VolumeMount.readOnly (fun _ _ => rfl) first rest
  subPath := lastSet_foldl_join VolumeMount.subPath (fun _ _ => rfl) first rest

lemma image_foldl (first : Container) (rest : List Container) :
    (rest.foldl join first).image = lastSet Container.image (first :: rest) :=
  lastSet_foldl_join Container.image (fun _ _ => rfl) first rest

lemma command_foldl (first : Container) (rest : List Container) :
    (rest.foldl join first).command =
      (lastSet (fun part => Option.guard (fun command => !command.isEmpty) part.command)
        (first :: rest)).getD [] := by
  refine lastCounting_foldl_join Container.command
    (fun part => Option.guard (fun command => !command.isEmpty) part.command) [] ?_ ?_ first rest
  · intro c
    cases h : c.command <;> simp [Option.guard]
  · intro lower higher
    change Rule.ifNonempty lower.command higher.command = _
    unfold Rule.ifNonempty
    cases h : higher.command <;> simp [Option.guard]

lemma resources_foldl (first : Container) (rest : List Container) :
    (rest.foldl join first).resources =
      (lastSet (fun part => part.resources.filter Resources.isSet) (first :: rest)).or first.resources := by
  have hstep (lower higher : Container) :
      (join lower higher).resources = (higher.resources.filter Resources.isSet).or lower.resources := by
    change Rule.ifCounts Resources.isSet lower.resources higher.resources = _
    unfold Rule.ifCounts
    cases higher.resources with
    | none => rfl
    | some block => cases h : block.isSet <;> simp [Option.filter, h]
  have hfirst : (first.resources.filter Resources.isSet).or first.resources = first.resources := by
    cases first.resources with
    | none => rfl
    | some block => cases h : block.isSet <;> simp [Option.filter, h]
  rw [part_foldl_join Container.resources (fun held c => (c.resources.filter Resources.isSet).or held) hstep,
    foldl_or (fun c : Container => c.resources.filter Resources.isSet), lastSet_cons, Option.or_assoc, hfirst]

lemma mounts_foldl_join (first : Container) (rest : List Container) :
    (rest.foldl join first).volumeMounts =
      joinAll first.volumeMounts (rest.flatMap fun part => part.volumeMounts.toList) := by
  rw [part_foldl_join Container.volumeMounts (fun held c => joinAll held c.volumeMounts.toList)
    fun _ _ => rfl, joinAll, List.foldl_flatMap]
  rfl

lemma containerOf_foldl {first : Container} (hmounts : first.volumeMounts.Coherent)
    (rest : List Container) : ContainerOf (first :: rest) (rest.foldl join first) where
  command := command_foldl first rest
  env := flatMap_foldl_join Container.env (fun _ _ => rfl) first rest
  ports := flatMap_foldl_join Container.ports (fun _ _ => rfl) first rest
  resources := resources_foldl first rest
  readinessProbe := lastSet_foldl_join Container.readinessProbe (fun _ _ => rfl) first rest
  mount key := by
    rw [mounts_foldl_join, get_joinAll_of_coherent hmounts, List.flatMap_cons]
    refine fills_pile fun mount mounts hparts => ⟨?_, hparts ▸ mountOf_foldl mount mounts⟩
    have hmem : mount ∈ partsNamed key _ := hparts ▸ List.mem_cons_self
    exact (name_foldl_join mount mounts).trans (name_of_mem_partsNamed hmem)

lemma volumeOf_foldl (first : Volume) (rest : List Volume) :
    VolumeOf (first :: rest) (rest.foldl join first) := by
  refine lastCounting_foldl_join Volume.sources (fun part => Option.guard VolumeSources.isSet part.sources)
    {} ?_ ?_ first rest
  · rintro ⟨name, secret, configMap, emptyDir, projected⟩
    by_cases h : VolumeSources.isSet ⟨secret, configMap, emptyDir, projected⟩ = true
    · simp [Option.guard, h]
    · simp_all [Option.guard, VolumeSources.isSet]
  · intro lower higher
    change (if higher.sources.isSet then higher.sources else lower.sources) = _
    cases h : higher.sources.isSet <;> simp [Option.guard, h]

/-! ## Composed pods -/

/-- The image of the primary container of a pod. -/
def primaryImage (primary : String) (pod : PodTemplate) : Option String :=
  (pod.spec.containers.get? primary).bind Container.image

def withImageOr (image : Option String) (c : Container) : Container :=
  { c with image := c.image.or image }

lemma inheritImage_eq (pod : PodTemplate) (primary : String) :
    pod.inheritImage primary =
      { pod with
        spec :=
          { pod.spec with
            initContainers :=
              pod.spec.initContainers.mapEntries (withImageOr (primaryImage primary pod)) } } := by
  unfold PodTemplate.inheritImage primaryImage
  cases h : (pod.spec.containers.get? primary).bind Container.image with
  | some image => rfl
  | none =>
    have hid : pod.spec.initContainers.mapEntries (withImageOr none) = pod.spec.initContainers := by
      simp [NamedList.mapEntries, withImageOr]
    rw [hid]

lemma get_mapEntries {α : Type} (f : α → α) (list : NamedList α) (key : String) :
    (list.mapEntries f).get? key = (list.get? key).map f := find_map f key list.entries

lemma lastSet_podOf {β : Type} (part : PodTemplate → Option β) (hempty : part {} = none)
    (h : ∀ lower higher, part (join lower higher) = (part higher).or (part lower)) (layers : List Layer) :
    part (podOf layers) = lastSet (fun layer => part layer.fragment.pod) layers := by
  have hfold : part (podOf layers) =
      layers.foldl (fun held layer => (part layer.fragment.pod).or held) (part {}) :=
    (List.foldl_hom part fun pod layer => (h pod layer.fragment.pod).symm).symm
  rw [hfold, foldl_or, hempty, Option.or_none]

/-- All entries of a list of the pod, layer by layer. -/
def layerEntries {α : Type} (list : PodTemplate → NamedList α) (layers : List Layer) : List α :=
  layers.flatMap fun layer => (list layer.fragment.pod).toList

/-- What the slots of a pod hold, as read from its layers. Init containers without an image have that of
the primary container. -/
structure SlotsOf (primary : String) (layers : List Layer) (pod : PodTemplate) : Prop where
  container : ∀ key,
    Fills
      (fun parts c => c.name = key ∧ c.image = lastSet Container.image parts ∧ ContainerOf parts c)
      (partsNamed key (layerEntries (fun pod => pod.spec.containers) layers))
      (pod.spec.containers.get? key)
  initContainer : ∀ key,
    Fills
      (fun parts c => c.name = key ∧
        c.image = (lastSet Container.image parts).or (primaryImage primary pod) ∧ ContainerOf parts c)
      (partsNamed key (layerEntries (fun pod => pod.spec.initContainers) layers))
      (pod.spec.initContainers.get? key)
  volume : ∀ key,
    Fills (fun parts volume => volume.name = key ∧ VolumeOf parts volume)
      (partsNamed key (layerEntries (fun pod => pod.spec.volumes) layers))
      (pod.spec.volumes.get? key)
  label : ∀ key, pod.metadata.labels.find? key =
    lastSet (fun layer => layer.fragment.pod.metadata.labels.find? key) layers
  annotation : ∀ key, pod.metadata.annotations.find? key =
    lastSet (fun layer => layer.fragment.pod.metadata.annotations.find? key) layers
  automountServiceAccountToken : pod.spec.automountServiceAccountToken =
    lastSet (fun layer => layer.fragment.pod.spec.automountServiceAccountToken) layers
  serviceAccountName : pod.spec.serviceAccountName =
    lastSet (fun layer => layer.fragment.pod.spec.serviceAccountName) layers

lemma fills_podOf {α : Type} [Named α] [Layered α] [Joins α] [KeepsName α]
    (list : PodTemplate → NamedList α) (hempty : list {} = .empty)
    (hlist : ∀ lower higher, list (join lower higher) = join (list lower) (list higher))
    {layers : List Layer} {Made : List α → α → Prop}
    (h : ∀ first ∈ layerEntries list layers, ∀ rest, Made (first :: rest) (rest.foldl join first))
    (key : String) :
    Fills (fun parts a => Named.name a = key ∧ Made parts a) (partsNamed key (layerEntries list layers))
      ((list (podOf layers)).get? key) := by
  rw [list_podOf list hlist, hempty, get_joinAll_empty]
  refine fills_pile fun first rest hparts => ?_
  have hfirst : first ∈ partsNamed key (layerEntries list layers) := hparts ▸ List.mem_cons_self
  refine ⟨(name_foldl_join first rest).trans (name_of_mem_partsNamed hfirst), ?_⟩
  exact hparts ▸ h first (List.mem_of_mem_filter hfirst) rest

/-- A list of a stack holds under a name exactly what the containers of that name make, the image that was
given last included. -/
lemma fills_image (list : PodTemplate → NamedList Container) (layers : List Layer) (hempty : list {} = .empty)
    (hlist : ∀ lower higher, list (join lower higher) = join (list lower) (list higher)) (key : String) :
    Fills (fun parts c => Named.name c = key ∧ c.image = lastSet Container.image parts)
      (partsNamed key (layerEntries list layers)) ((list (podOf layers)).get? key) :=
  fills_podOf list hempty hlist (fun first _ rest => image_foldl first rest) key

lemma mounts_of_mem_layerEntries {layers : List Layer}
    (hlayers : ∀ layer ∈ layers, CoherentPod layer.fragment.pod) {c : Container}
    (h : c ∈ layerEntries (fun pod => pod.spec.containers) layers ∨
      c ∈ layerEntries (fun pod => pod.spec.initContainers) layers) : c.volumeMounts.Coherent := by
  rcases h with h | h
  · obtain ⟨layer, hlayer, hc⟩ := List.mem_flatMap.1 h
    exact (hlayers layer hlayer).mounts c hc
  · obtain ⟨layer, hlayer, hc⟩ := List.mem_flatMap.1 h
    exact (hlayers layer hlayer).initMounts c hc

lemma slotsOf_inheritImage {layers : List Layer}
    (hlayers : ∀ layer ∈ layers, CoherentPod layer.fragment.pod) (primary : String) :
    SlotsOf primary layers ((podOf layers).inheritImage primary) := by
  rw [inheritImage_eq]
  exact {
    container := fills_podOf (fun pod => pod.spec.containers) rfl (fun _ _ => rfl) fun first hfirst rest =>
      ⟨image_foldl first rest, containerOf_foldl (mounts_of_mem_layerEntries hlayers (.inl hfirst)) rest⟩
    initContainer := fun key => by
      have hpile :
          Fills
            (fun parts c =>
              c.name = key ∧ c.image = lastSet Container.image parts ∧ ContainerOf parts c)
            (partsNamed key (layerEntries (fun pod => pod.spec.initContainers) layers))
            ((podOf layers).spec.initContainers.get? key) :=
        fills_podOf (fun pod => pod.spec.initContainers) rfl (fun _ _ => rfl)
          (fun first hfirst rest => ⟨image_foldl first rest,
            containerOf_foldl (mounts_of_mem_layerEntries hlayers (.inr hfirst)) rest⟩) key
      rw [get_mapEntries]
      refine fills_map hpile fun c hc => ?_
      obtain ⟨hname, himage, hmade⟩ := hc
      refine ⟨hname, ?_, { hmade with }⟩
      rw [← himage]
      rfl
    volume := fills_podOf (fun pod => pod.spec.volumes) rfl (fun _ _ => rfl) fun first _ rest =>
      volumeOf_foldl first rest
    label := fun key => lastSet_podOf (fun pod => pod.metadata.labels.find? key) rfl
      (fun _ _ => sortedMap_find_overlay _ _ key) layers
    annotation := fun key => lastSet_podOf (fun pod => pod.metadata.annotations.find? key) rfl
      (fun _ _ => sortedMap_find_overlay _ _ key) layers
    automountServiceAccountToken :=
      lastSet_podOf (fun pod => pod.spec.automountServiceAccountToken) rfl (fun _ _ => rfl) layers
    serviceAccountName :=
      lastSet_podOf (fun pod => pod.spec.serviceAccountName) rfl (fun _ _ => rfl) layers }

/-- What a composition that succeeds puts into every slot. -/
theorem assemble_slots {platform : Platform} {request : Request} {assembled : Assembled}
    (hcatalog : CoherentCatalog platform.catalog) (huser : CoherentRequest request)
    (h : platform.assemble request = .ok assembled) :
    assembled.trail.origins = (gatheredLayers platform request).map Layer.origin ∧
      (∃ addons user, gatheredLayers platform request =
          defaultLayer platform request :: addons ++ userLayers user ∧
        (∀ layer ∈ addons, IsPresetLayer platform.catalog (platform.context request) layer) ∧
        userFragment request.userOverride request.vars = .ok user) ∧
      SlotsOf platform.settings.workload.containerName (gatheredLayers platform request) assembled.pod := by
  obtain ⟨hissues, pod, hpod, -, rfl⟩ := (assemble_eq_ok_iff _ _ _).1 h
  obtain rfl := stackPods_eq_ok hpod
  have hlayers := coherent_gatheredLayers hcatalog huser hissues
  exact ⟨rfl, gatheredLayers_eq hissues, slotsOf_inheritImage hlayers _⟩

/-- An override that takes the image from a mirror and adds a variable. -/
def mirrorOverride : PodTemplate where
  spec :=
    { containers := .ofList [
        { name := "kibana", image := some "mirror/kibana:8.0.0", env := [{ name := "NODE_OPTIONS" }] }] }

/-- The override on top of two presets and the one that they require. -/
def mirroredRequest : Request where
  identity := { name := "kibana-sample", version := "8.0.0" }
  flags := { keystore := true, leaderElection := true }
  userOverride := some (.typed mirrorOverride)

set_option maxRecDepth 4000 in
theorem assemble_slots_mirrored :
    CoherentCatalog ({} : Platform).catalog ∧ CoherentRequest mirroredRequest ∧
      ∃ assembled, ({} : Platform).assemble mirroredRequest = .ok assembled ∧
        assembled.trail.origins.length = 5 ∧
        SlotsOf "kibana" (gatheredLayers {} mirroredRequest) assembled.pod := by
  have huser : CoherentRequest mirroredRequest := by
    intro pod hpod
    obtain rfl := Override.typed.inj (Option.some.inj hpod)
    exact coherentPod_ofList [] [_] [] rfl rfl rfl (List.forall_mem_singleton.2 coherent_empty)
  obtain ⟨assembled, h, horigins⟩ : ∃ assembled, ({} : Platform).assemble mirroredRequest = .ok assembled ∧
      assembled.trail.origins.length = 5 := ⟨_, rfl, rfl⟩
  exact ⟨coherentCatalog_builtin, huser, assembled, h, horigins,
    (assemble_slots coherentCatalog_builtin huser h).2.2⟩

end PodLayers.Proofs
