import PodLayers.Proofs.AskedPresets
import PodLayers.Proofs.EntryOrder

/-!
# Names and images of containers

In a composed pod no name is borne by two containers of either kind. The primary container of the default
layer and its image outlast whatever is laid over them, and every init container has an image: the last one
that a layer gives it, else that of the primary container in the end.
-/

namespace PodLayers.Proofs
open Joins

/-! ## Images -/

/-- An image that some layer gives to a container is not lost. -/
lemma exists_image (list : PodTemplate → NamedList Container) (layers : List Layer)
    (hempty : list {} = .empty)
    (hlist : ∀ lower higher, list (join lower higher) = join (list lower) (list higher)) {given : Container}
    (hgiven : given ∈ layerEntries list layers) (himage : given.image ≠ none) :
    ∃ c, (list (podOf layers)).get? given.name = some c ∧ c.name = given.name ∧ c.image ≠ none := by
  have hpart : given ∈ partsNamed given.name (layerEntries list layers) :=
    List.mem_filter.2 ⟨hgiven, decide_eq_true rfl⟩
  have hfills := fills_image list layers hempty hlist given.name
  cases hheld : (list (podOf layers)).get? given.name with
  | none =>
    rw [hheld] at hfills
    have hparts : partsNamed given.name (layerEntries list layers) = [] := hfills
    rw [hparts] at hpart
    exact absurd hpart List.not_mem_nil
  | some c =>
    rw [hheld] at hfills
    obtain ⟨-, hname, hlast⟩ := hfills
    refine ⟨c, rfl, hname, ?_⟩
    rw [hlast, Ne, lastSet_eq_none_iff]
    exact fun hunset => himage (hunset given hpart)

lemma primaryContainer_mem (platform : Platform) (request : Request) (layers : List Layer) :
    Defaults.primaryContainer platform.settings request.identity ∈
      layerEntries (fun pod => pod.spec.containers) (defaultLayer platform request :: layers) := by
  refine List.mem_flatMap.2 ⟨defaultLayer platform request, List.mem_cons_self, ?_⟩
  exact List.mem_singleton_self _

/-- The primary container has an image, whatever is laid over the default layer. -/
lemma exists_primary {platform : Platform} {request : Request}
    (hissues : gatheredIssues platform request = []) :
    ∃ c, (podOf (gatheredLayers platform request)).spec.containers.get?
        platform.settings.workload.containerName = some c ∧
      c.name = platform.settings.workload.containerName ∧ c.image ≠ none := by
  obtain ⟨addons, user, hlayers, -, -⟩ := gatheredLayers_eq hissues
  have hmem := primaryContainer_mem platform request (addons ++ userLayers user)
  rw [← List.cons_append, ← hlayers] at hmem
  exact exists_image (fun pod => pod.spec.containers) _ rfl (fun _ _ => rfl) hmem nofun

/-! ## Names -/

section Names

variable (layers : List Layer)

lemma names_podOf_eq_keys {α : Type} [Named α] [Layered α] [Joins α] [KeepsName α]
    (list : PodTemplate → NamedList α) (hempty : list {} = .empty)
    (hlist : ∀ lower higher, list (join lower higher) = join (list lower) (list higher)) :
    names (list (podOf layers)) = (list (podOf layers)).keys :=
  names_toList (coherent_list_podOf list hempty hlist layers)

lemma names_initContainers_podOf :
    names (podOf layers).spec.initContainers = (podOf layers).spec.initContainers.keys :=
  names_podOf_eq_keys layers (fun pod => pod.spec.initContainers) rfl fun _ _ => rfl

lemma names_containers_podOf :
    names (podOf layers).spec.containers = (podOf layers).spec.containers.keys :=
  names_podOf_eq_keys layers (fun pod => pod.spec.containers) rfl fun _ _ => rfl

lemma names_apart_of_nameClash (h : (podOf layers).nameClash? = none) :
    (names (podOf layers).spec.initContainers ++ names (podOf layers).spec.containers).Nodup := by
  rw [nameClash_eq_none_iff] at h
  rw [names_initContainers_podOf, names_containers_podOf, List.nodup_append]
  refine ⟨(coherent_list_podOf (fun pod => pod.spec.initContainers) rfl (fun _ _ => rfl) layers).1,
    (coherent_list_podOf (fun pod => pod.spec.containers) rfl (fun _ _ => rfl) layers).1, ?_⟩
  rintro name hinit other hcontainer rfl
  exact h name ⟨hinit, hcontainer⟩

/-- The first init container that has the name of a container is the one that is reported. -/
lemma nameClash_of_shared {name : String} (hinit : name ∈ names (podOf layers).spec.initContainers)
    (hcontainer : name ∈ names (podOf layers).spec.containers) :
    ∃ before first after, names (podOf layers).spec.initContainers = before ++ first :: after ∧
      first ∈ names (podOf layers).spec.containers ∧
      (∀ other ∈ before, other ∉ names (podOf layers).spec.containers) ∧
      (podOf layers).nameClash? =
        some ⟨"spec.initContainers[" ++ first ++ "].name", "application container", "init container"⟩ := by
  rw [names_initContainers_podOf] at hinit ⊢
  rw [names_containers_podOf] at hcontainer ⊢
  have hfound : ((podOf layers).spec.initContainers.keys.find?
      (podOf layers).spec.containers.contains).isSome = true :=
    List.find?_isSome.2 ⟨name, hinit, (contains_iff _ _).2 hcontainer⟩
  obtain ⟨first, hfirst⟩ := Option.isSome_iff_exists.1 hfound
  obtain ⟨hshared, before, after, hsplit, hbefore⟩ := List.find?_eq_some_iff_append.1 hfirst
  refine ⟨before, first, after, hsplit, (contains_iff _ _).1 hshared, ?_, ?_⟩
  · intro other hother hmem
    have hnot := hbefore other hother
    rw [(contains_iff _ _).2 hmem] at hnot
    cases hnot
  · rw [PodTemplate.nameClash?, hfirst]
    rfl

end Names

lemma assemble_of_nameClash {platform : Platform} {request : Request}
    (hissues : gatheredIssues platform request = []) {pod : PodTemplate}
    (hpod : stackPods (gatheredLayers platform request) = .ok pod) {clash : Clash}
    (hclash : pod.nameClash? = some clash) : platform.assemble request = .error (.conflict clash) := by
  obtain ⟨hlayers, hraised⟩ := gathered_eq platform request
  rw [hraised] at hissues
  rw [hlayers] at hpod
  rw [assemble_eq, requestOutcome, hissues]
  change assembleLayers _ _ _ = _
  rw [assembleLayers, hpod]
  simp only [Except.mapError, bind, Except.bind, hclash]
  rfl

/-! ## Composed pods -/

/-- All containers of a pod can be run: their names are apart and they have images. -/
structure Runnable (primary : String) (layers : List Layer) (pod : PodTemplate) : Prop where
  distinct : (names pod.spec.initContainers ++ names pod.spec.containers).Nodup
  primaryContainer : ∃ c, pod.spec.containers.get? primary = some c ∧ c.name = primary ∧ c.image ≠ none
  initImage : ∀ c ∈ pod.spec.initContainers.toList, c.image ≠ none ∧
    c.image = (lastSet Container.image
        (partsNamed c.name (layerEntries (fun pod => pod.spec.initContainers) layers))).or
      (primaryImage primary pod)

lemma runnable_inheritImage {primary : String} {layers : List Layer}
    (hclash : (podOf layers).nameClash? = none) {c : Container}
    (hprimary : (podOf layers).spec.containers.get? primary = some c) (hname : c.name = primary)
    (himage : c.image ≠ none) : Runnable primary layers ((podOf layers).inheritImage primary) := by
  have hheld : primaryImage primary (podOf layers) = c.image := by
    rw [primaryImage, hprimary, Option.bind_some]
  have hnames : names ((podOf layers).spec.initContainers.mapEntries (withImageOr c.image)) =
      names (podOf layers).spec.initContainers := names_mapEntries _ _ fun _ => rfl
  rw [inheritImage_eq, hheld]
  refine ⟨?_, ⟨c, hprimary, hname, himage⟩, ?_⟩
  · have hdistinct := names_apart_of_nameClash layers hclash
    rw [← hnames] at hdistinct
    exact hdistinct
  · intro init hinit
    rw [toList_mapEntries] at hinit
    obtain ⟨stacked, hstacked, rfl⟩ := List.mem_map.1 hinit
    have hcoherent := coherent_list_podOf (fun pod => pod.spec.initContainers) rfl (fun _ _ => rfl) layers
    have hget : (podOf layers).spec.initContainers.get? stacked.name = some stacked :=
      (get_eq_some_iff hcoherent _ stacked).2 ⟨hstacked, rfl⟩
    have hlast : stacked.image = lastSet Container.image
        (partsNamed stacked.name (layerEntries (fun pod => pod.spec.initContainers) layers)) := by
      have hfills := fills_image (fun pod => pod.spec.initContainers) layers rfl (fun _ _ => rfl) stacked.name
      rw [hget] at hfills
      exact hfills.2.2
    have hmade : (withImageOr c.image stacked).image = stacked.image.or c.image := rfl
    rw [hmade]
    refine ⟨?_, ?_⟩
    · rw [Ne, Option.or_eq_none_iff]
      exact fun hnone => himage hnone.2
    · rw [hlast]
      exact congrArg _ hheld.symm

/-- A composition that succeeds gives a pod whose containers can all be run. One whose layers can be stacked
fails when a name is borne by containers of both kinds, and names the first of the init containers. -/
theorem assemble_runnable (platform : Platform) (request : Request) :
    (∀ assembled, platform.assemble request = .ok assembled →
      Runnable platform.settings.workload.containerName (gatheredLayers platform request) assembled.pod) ∧
    ∀ pod, gatheredIssues platform request = [] →
      stackPods (gatheredLayers platform request) = .ok pod →
      (∃ name, name ∈ names pod.spec.initContainers ∧ name ∈ names pod.spec.containers) →
        ∃ before first after, names pod.spec.initContainers = before ++ first :: after ∧
          first ∈ names pod.spec.containers ∧ (∀ other ∈ before, other ∉ names pod.spec.containers) ∧
          platform.assemble request = .error (.conflict
            ⟨"spec.initContainers[" ++ first ++ "].name", "application container", "init container"⟩) := by
  refine ⟨?_, ?_⟩
  · intro assembled h
    obtain ⟨hissues, pod, hpod, hclash, rfl⟩ := (assemble_eq_ok_iff _ _ _).1 h
    obtain rfl := stackPods_eq_ok hpod
    obtain ⟨c, hprimary, hname, himage⟩ := exists_primary hissues
    exact runnable_inheritImage hclash hprimary hname himage
  · rintro pod hissues hpod ⟨name, hinit, hcontainer⟩
    obtain rfl := stackPods_eq_ok hpod
    obtain ⟨before, first, after, hsplit, hshared, hbefore, hclash⟩ :=
      nameClash_of_shared _ hinit hcontainer
    exact ⟨before, first, after, hsplit, hshared, hbefore, assemble_of_nameClash hissues hpod hclash⟩

/-- An init container of the user in front of the keystore's, and one named as the primary container. -/
def sharedNameOverride : PodTemplate where
  spec := { initContainers := .ofList [{ name := "setup" }, { name := "kibana" }] }

def sharedNameRequest : Request where
  identity := { name := "kibana-sample", version := "8.0.0" }
  flags := { keystore := true }
  userOverride := some (.typed sharedNameOverride)

set_option maxRecDepth 4000 in
theorem assemble_runnable_mirrored :
    (∃ assembled, ({} : Platform).assemble mirroredRequest = .ok assembled ∧
      Runnable "kibana" (gatheredLayers {} mirroredRequest) assembled.pod ∧
      primaryImage "kibana" assembled.pod = some "mirror/kibana:8.0.0") ∧
    ∃ pod, gatheredIssues {} sharedNameRequest = [] ∧
      stackPods (gatheredLayers {} sharedNameRequest) = .ok pod ∧
      names pod.spec.initContainers = ["elastic-internal-init-keystore", "setup", "kibana"] ∧
      ∃ clash, ({} : Platform).assemble sharedNameRequest = .error (.conflict clash) := by
  obtain ⟨assembled, h, himage⟩ : ∃ assembled, ({} : Platform).assemble mirroredRequest = .ok assembled ∧
      primaryImage "kibana" assembled.pod = some "mirror/kibana:8.0.0" := ⟨_, rfl, rfl⟩
  obtain ⟨pod, hpod, hnames, hcontainer⟩ :
      ∃ pod, stackPods (gatheredLayers {} sharedNameRequest) = .ok pod ∧
        names pod.spec.initContainers = ["elastic-internal-init-keystore", "setup", "kibana"] ∧
        names pod.spec.containers = ["kibana"] := ⟨_, rfl, rfl, rfl⟩
  have hissues : gatheredIssues {} sharedNameRequest = [] := rfl
  have hshared : ∃ name, name ∈ names pod.spec.initContainers ∧ name ∈ names pod.spec.containers :=
    ⟨"kibana", by simp [hnames], by simp [hcontainer]⟩
  obtain ⟨-, first, -, -, -, -, hclash⟩ := (assemble_runnable {} sharedNameRequest).2 pod hissues hpod hshared
  exact ⟨⟨assembled, h, (assemble_runnable {} mirroredRequest).1 assembled h, himage⟩,
    pod, hissues, hpod, hnames, _, hclash⟩

end PodLayers.Proofs
