import PodLayers.Proofs.IdentityClashes
import PodLayers.Proofs.SlotMeaning

/-!
# The layer of the user

A request is composed with and without an override. The override can make a composition fail only through
its names, it cannot make one succeed, and what it does not name is the same in both results. The image
that init containers take from the primary container is the one thing that it changes elsewhere.
-/

namespace PodLayers.Proofs
open Entries Joins

/-! ## Lists below an override -/

section Lists

variable {α : Type} [Named α]

/-- The names of the entries of a list. -/
def names (list : NamedList α) : List String := list.toList.map Named.name

variable [Layered α] [Joins α]

lemma mem_keys_joinEntry (list : NamedList α) (a : α) (key : String) :
    key ∈ (joinEntry list a).keys ↔ key ∈ list.keys ∨ key = Named.name a := by
  rw [← contains_iff, ← contains_iff, NamedList.contains, NamedList.contains, get_joinEntry]
  by_cases h : Named.name a = key
  · simp [h]
  · have h' : ¬key = Named.name a := fun e => h e.symm
    simp [h, h']

lemma mem_keys_join (lower higher : NamedList α) (key : String) :
    key ∈ (join lower higher).keys ↔ key ∈ lower.keys ∨ key ∈ names higher := by
  have hrun (items : List α) (list : NamedList α) :
      key ∈ (joinAll list items).keys ↔ key ∈ list.keys ∨ key ∈ items.map Named.name := by
    induction items generalizing list with
    | nil => simp [joinAll]
    | cons a rest ih =>
      have hstep : joinAll list (a :: rest) = joinAll (joinEntry list a) rest := rfl
      rw [hstep, ih, mem_keys_joinEntry, List.map_cons, List.mem_cons, or_assoc]
  exact hrun higher.toList lower

lemma get_join_of_not_mem {lower higher : NamedList α} {key : String} (h : key ∉ names higher) :
    (join lower higher).get? key = lower.get? key := by
  have hfilter : (higher.toList.filter fun a => Named.name a = key) = [] := by
    rw [List.filter_eq_nil_iff]
    intro a ha hname
    exact h (List.mem_map.2 ⟨a, ha, of_decide_eq_true hname⟩)
  have hget := get_joinAll lower higher.toList key
  rw [hfilter] at hget
  exact hget

end Lists

lemma nameClash_eq_none_iff (pod : PodTemplate) :
    pod.nameClash? = none ↔
      ∀ name, ¬(name ∈ pod.spec.initContainers.keys ∧ name ∈ pod.spec.containers.keys) := by
  rw [PodTemplate.nameClash?, Option.map_eq_none_iff, List.find?_eq_none]
  simp only [contains_iff, not_and]

/-- Names clash in a join when they do once the names of the higher template are added. -/
lemma nameClash_join_eq_none_iff (lower higher : PodTemplate) :
    (join lower higher).nameClash? = none ↔
      ∀ name,
        ¬((name ∈ lower.spec.initContainers.keys ∨ name ∈ names higher.spec.initContainers) ∧
          (name ∈ lower.spec.containers.keys ∨ name ∈ names higher.spec.containers)) := by
  have hinit (name : String) := mem_keys_join lower.spec.initContainers higher.spec.initContainers name
  have hcontainers (name : String) := mem_keys_join lower.spec.containers higher.spec.containers name
  simp only [nameClash_eq_none_iff, ← hinit, ← hcontainers]
  rfl

lemma keys_inheritImage (pod : PodTemplate) (primary : String) :
    (pod.inheritImage primary).spec.initContainers.keys = pod.spec.initContainers.keys ∧
      (pod.inheritImage primary).spec.containers.keys = pod.spec.containers.keys := by
  rw [inheritImage_eq]
  exact ⟨keys_map _ pod.spec.initContainers.entries, rfl⟩

/-! ## Requests with and without an override -/

/-- A request without what the user wrote. -/
def withoutUser (request : Request) : Request := { request with userOverride := none, vars := none }

/-- A request with a template and, perhaps, a document of the user. -/
def withUser (request : Request) (user : PodTemplate) (vars : Option Vars) : Request :=
  { request with userOverride := some (.typed user), vars }

section Requests

variable (platform : Platform) (request : Request) (user : PodTemplate) (vars : Option Vars)

lemma gathered_withUser :
    gatheredLayers platform (withUser request user vars) =
        gatheredLayers platform (withoutUser request) ++
          [⟨.user, { pod := user, document := vars.map Vars.document }⟩] ∧
      gatheredIssues platform (withUser request user vars) =
        gatheredIssues platform (withoutUser request) := by
  have hwithout : userFragment (withoutUser request).userOverride (withoutUser request).vars = .ok none :=
    rfl
  have hwith : userFragment (withUser request user vars).userOverride (withUser request user vars).vars =
      .ok (some { pod := user, document := vars.map Vars.document }) := rfl
  have hpresets : presetsGathered platform (withUser request user vars) platform.catalog.ledger =
      presetsGathered platform (withoutUser request) platform.catalog.ledger := rfl
  obtain ⟨hlayers, hissues⟩ := gather_of_userFragment platform hwithout
  obtain ⟨hlayers', hissues'⟩ := gather_of_userFragment platform hwith
  rw [hlayers, hlayers', hissues, hissues', hpresets]
  exact ⟨by simp [userLayers], rfl⟩

lemma stackPods_user (layers : List Layer) (fragment : Fragment) (result : PodTemplate) :
    stackPods (layers ++ [⟨.user, fragment⟩]) = .ok result ↔
      ∃ pod, stackPods layers = .ok pod ∧ result = join pod fragment.pod := by
  rw [stackPods, List.foldlM_append, bind_eq_ok_iff]
  refine exists_congr fun pod => and_congr_right fun _ => ?_
  rw [List.foldlM_cons, withLayer_user, bind_eq_ok_iff]
  constructor
  · rintro ⟨next, hnext, hresult⟩
    rw [Except.ok.inj hnext]
    exact (Except.ok.inj hresult).symm
  · rintro rfl
    exact ⟨_, rfl, rfl⟩

/-- With an override, a composition succeeds when the one without would, but for the names. -/
lemma assemble_withUser_eq_ok_iff (assembled : Assembled) :
    platform.assemble (withUser request user vars) = .ok assembled ↔
      gatheredIssues platform (withoutUser request) = [] ∧
        ∃ pod, stackPods (gatheredLayers platform (withoutUser request)) = .ok pod ∧
          (join pod user).nameClash? = none ∧
          assembled =
            ⟨(join pod user).inheritImage platform.settings.workload.containerName,
              stackDocuments (gatheredLayers platform (withUser request user vars)),
              request.identity.target,
              (gatheredLayers platform (withUser request user vars)).map Layer.origin⟩ := by
  obtain ⟨hlayers, hissues⟩ := gathered_withUser platform request user vars
  rw [assemble_eq_ok_iff, hissues]
  refine and_congr_right fun _ => ?_
  rw [hlayers]
  simp only [stackPods_user]
  constructor
  · rintro ⟨_, ⟨pod, hpod, rfl⟩, hclash, rfl⟩
    exact ⟨pod, hpod, hclash, rfl⟩
  · rintro ⟨pod, hpod, hclash, rfl⟩
    exact ⟨_, ⟨pod, hpod, rfl⟩, hclash, rfl⟩

end Requests

/-! ## What an override leaves alone -/

/-- Some layer gives an image to an init container. -/
def GivesInitImage (layers : List Layer) (name : String) : Prop :=
  ∃ c ∈ layerEntries (fun pod => pod.spec.initContainers) layers, c.name = name ∧ c.image ≠ none

/-- Everything that an override does not name is as it was below it. Init containers to which no layer
gives an image have that of the primary container, with and without the override. -/
structure Untouched (primary : String) (layers : List Layer) (user below result : PodTemplate) : Prop where
  container : ∀ name ∉ names user.spec.containers,
    result.spec.containers.get? name = below.spec.containers.get? name
  initContainer : ∀ name ∉ names user.spec.initContainers, GivesInitImage layers name →
    result.spec.initContainers.get? name = below.spec.initContainers.get? name
  inheritedImage : ∀ name ∉ names user.spec.initContainers, ¬GivesInitImage layers name →
    (∀ c, below.spec.initContainers.get? name = some c → c.image = primaryImage primary below) ∧
      result.spec.initContainers.get? name =
        (below.spec.initContainers.get? name).map fun c => { c with image := primaryImage primary result }
  volume : ∀ name ∉ names user.spec.volumes,
    result.spec.volumes.get? name = below.spec.volumes.get? name
  label : ∀ key, user.metadata.labels.find? key = none →
    result.metadata.labels.find? key = below.metadata.labels.find? key
  annotation : ∀ key, user.metadata.annotations.find? key = none →
    result.metadata.annotations.find? key = below.metadata.annotations.find? key
  automountServiceAccountToken : user.spec.automountServiceAccountToken = none →
    result.spec.automountServiceAccountToken = below.spec.automountServiceAccountToken
  serviceAccountName : user.spec.serviceAccountName = none →
    result.spec.serviceAccountName = below.spec.serviceAccountName

lemma part_join_of_unset {β : Type} (part : PodTemplate → Option β) {lower higher : PodTemplate}
    (h : part (join lower higher) = (part higher).or (part lower)) (hunset : part higher = none) :
    part (join lower higher) = part lower := by rw [h, hunset, Option.none_or]

lemma initImage_podOf {layers : List Layer} {name : String} {c : Container}
    (h : (podOf layers).spec.initContainers.get? name = some c) :
    c.image = none ↔ ¬GivesInitImage layers name := by
  have hfills := fills_image (fun pod => pod.spec.initContainers) layers rfl (fun _ _ => rfl) name
  rw [h] at hfills
  obtain ⟨-, -, himage⟩ := hfills
  rw [himage, lastSet_eq_none_iff]
  constructor
  · rintro hnone ⟨part, hpart, hname, hset⟩
    exact hset (hnone part (List.mem_filter.2 ⟨hpart, decide_eq_true hname⟩))
  · intro hgives part hpart
    by_contra hset
    exact hgives ⟨part, List.mem_of_mem_filter hpart, name_of_mem_partsNamed hpart, hset⟩

lemma untouched_inheritImage (primary : String) (layers : List Layer) (user : PodTemplate) :
    Untouched primary layers user ((podOf layers).inheritImage primary)
      ((join (podOf layers) user).inheritImage primary) := by
  have hinit {name : String} (hname : name ∉ names user.spec.initContainers) :
      (join (podOf layers) user).spec.initContainers.get? name =
        (podOf layers).spec.initContainers.get? name := get_join_of_not_mem hname
  rw [inheritImage_eq, inheritImage_eq]
  exact {
    container := fun name hname => get_join_of_not_mem hname
    initContainer := fun name hname hgives => by
      simp only [get_mapEntries, hinit hname]
      cases hheld : (podOf layers).spec.initContainers.get? name with
      | none => rfl
      | some c =>
        obtain ⟨image, himage⟩ : ∃ image, c.image = some image :=
          Option.ne_none_iff_exists'.1 fun hnone => (initImage_podOf hheld).1 hnone hgives
        simp [withImageOr, himage]
    inheritedImage := fun name hname hgives => by
      simp only [get_mapEntries, hinit hname]
      cases hheld : (podOf layers).spec.initContainers.get? name with
      | none => exact ⟨fun _ h => absurd h (by simp), rfl⟩
      | some c =>
        have himage : c.image = none := (initImage_podOf hheld).2 hgives
        refine ⟨fun c' hc' => ?_, ?_⟩
        · obtain rfl : withImageOr (primaryImage primary (podOf layers)) c = c' := Option.some.inj hc'
          simp [withImageOr, himage, primaryImage]
        · simp [withImageOr, himage, primaryImage]
    volume := fun name hname => get_join_of_not_mem hname
    label := fun key hunset => part_join_of_unset (fun pod => pod.metadata.labels.find? key)
      (sortedMap_find_overlay _ _ key) hunset
    annotation := fun key hunset => part_join_of_unset (fun pod => pod.metadata.annotations.find? key)
      (sortedMap_find_overlay _ _ key) hunset
    automountServiceAccountToken := fun hunset =>
      part_join_of_unset (fun pod => pod.spec.automountServiceAccountToken) rfl hunset
    serviceAccountName := fun hunset =>
      part_join_of_unset (fun pod => pod.spec.serviceAccountName) rfl hunset }

/-- An override never clashes, never makes up for what failed below it, and leaves alone what it does not
name. -/
theorem assemble_withUser (platform : Platform) (request : Request) (user : PodTemplate)
    (vars : Option Vars) :
    ((∃ overridden, platform.assemble (withUser request user vars) = .ok overridden) ↔
      ∃ plain, platform.assemble (withoutUser request) = .ok plain ∧
        ∀ name,
          ¬((name ∈ plain.pod.spec.initContainers.keys ∨ name ∈ names user.spec.initContainers) ∧
            (name ∈ plain.pod.spec.containers.keys ∨ name ∈ names user.spec.containers))) ∧
    ∀ plain overridden, platform.assemble (withoutUser request) = .ok plain →
      platform.assemble (withUser request user vars) = .ok overridden →
        Untouched platform.settings.workload.containerName (gatheredLayers platform (withoutUser request)) user
          plain.pod overridden.pod := by
  refine ⟨⟨?_, ?_⟩, ?_⟩
  · rintro ⟨overridden, h⟩
    obtain ⟨hissues, pod, hpod, hclash, -⟩ := (assemble_withUser_eq_ok_iff _ _ _ _ _).1 h
    rw [nameClash_join_eq_none_iff] at hclash
    have hplain : pod.nameClash? = none := by
      rw [nameClash_eq_none_iff]
      exact fun name hname => hclash name ⟨.inl hname.1, .inl hname.2⟩
    refine ⟨_, (assemble_eq_ok_iff _ _ _).2 ⟨hissues, pod, hpod, hplain, rfl⟩, ?_⟩
    simp only [keys_inheritImage]
    exact hclash
  · rintro ⟨plain, h, hapart⟩
    obtain ⟨hissues, pod, hpod, -, rfl⟩ := (assemble_eq_ok_iff _ _ _).1 h
    simp only [keys_inheritImage] at hapart
    rw [← nameClash_join_eq_none_iff] at hapart
    exact ⟨_, (assemble_withUser_eq_ok_iff _ _ _ _ _).2 ⟨hissues, pod, hpod, hapart, rfl⟩⟩
  · intro plain overridden hplain hoverridden
    -- both runs stack the same layers up to that of the user
    obtain ⟨-, pod, hpod, -, rfl⟩ := (assemble_eq_ok_iff _ _ _).1 hplain
    obtain ⟨-, pod', hpod', -, rfl⟩ := (assemble_withUser_eq_ok_iff _ _ _ _ _).1 hoverridden
    obtain rfl := stackPods_eq_ok hpod
    obtain rfl := stackPods_eq_ok hpod'
    exact untouched_inheritImage _ _ _

set_option maxRecDepth 4000 in
theorem assemble_withUser_mirrored :
    ∃ plain overridden, ({} : Platform).assemble (withoutUser mirroredRequest) = .ok plain ∧
      ({} : Platform).assemble (withUser mirroredRequest mirrorOverride none) = .ok overridden ∧
      Untouched "kibana" (gatheredLayers {} (withoutUser mirroredRequest)) mirrorOverride plain.pod
        overridden.pod ∧
      ((overridden.pod.spec.initContainers.get? Keystore.initContainer).bind Container.image) =
        some "mirror/kibana:8.0.0" := by
  obtain ⟨plain, hplain⟩ : ∃ plain, ({} : Platform).assemble (withoutUser mirroredRequest) = .ok plain :=
    ⟨_, rfl⟩
  obtain ⟨overridden, hoverridden, himage⟩ :
      ∃ overridden, ({} : Platform).assemble (withUser mirroredRequest mirrorOverride none) = .ok overridden ∧
        ((overridden.pod.spec.initContainers.get? Keystore.initContainer).bind Container.image) =
          some "mirror/kibana:8.0.0" := ⟨_, rfl, rfl⟩
  have huntouched := (assemble_withUser {} mirroredRequest mirrorOverride none).2 plain overridden hplain
    hoverridden
  exact ⟨plain, overridden, hplain, hoverridden, huntouched, himage⟩

end PodLayers.Proofs
