import PodLayers.Proofs.IdentityClashes
import PodLayers.Proofs.ListJoin

/-!
# Templates as a monoid

For layers of one origin it does not matter in which order neighbours are laid over each other: both orders
go through or neither does, and they give the same template. The empty template is neutral on both sides.
-/

namespace PodLayers.Proofs
open Entries Joins

/-! ## Parts -/

section Rules

variable {α : Type}

lemma ifNonempty_assoc (a b c : List α) :
    Rule.ifNonempty (Rule.ifNonempty a b) c = Rule.ifNonempty a (Rule.ifNonempty b c) := by
  unfold Rule.ifNonempty
  cases hc : c.isEmpty with
  | true => simp
  | false => simp [hc]

lemma ifCounts_assoc (counts : α → Bool) (a b c : Option α) :
    Rule.ifCounts counts (Rule.ifCounts counts a b) c = Rule.ifCounts counts a (Rule.ifCounts counts b c) := by
  unfold Rule.ifCounts
  cases hc : c.any counts with
  | true => simp [hc]
  | false => simp

end Rules

lemma join_assoc_mount (a b c : VolumeMount) : join (join a b) c = join a (join b c) := by
  change VolumeMount.overlay (VolumeMount.overlay a b) c = VolumeMount.overlay a (VolumeMount.overlay b c)
  simp only [VolumeMount.overlay, Rule.ifSet, Option.or_assoc]

lemma join_assoc_volume (a b c : Volume) : join (join a b) c = join a (join b c) := by
  let sources (lower higher : VolumeSources) := if higher.isSet then higher else lower
  have hjoin (lower higher : Volume) :
      join lower higher = ⟨lower.name, sources lower.sources higher.sources⟩ := rfl
  have hassoc (x y z : VolumeSources) : sources (sources x y) z = sources x (sources y z) := by
    by_cases hz : z.isSet = true <;> simp [sources, hz]
  simp only [hjoin a b, hjoin b c, hjoin _ c, hjoin a, hassoc]

/-- Mounts that are coherent join associatively, and nothing else in a container needs more. -/
lemma join_assoc_container {a b c : Container} (ha : a.volumeMounts.Coherent)
    (hb : b.volumeMounts.Coherent) (hc : c.volumeMounts.Coherent) :
    join (join a b) c = join a (join b c) := by
  have hmounts : join (join a.volumeMounts b.volumeMounts) c.volumeMounts =
      join a.volumeMounts (join b.volumeMounts c.volumeMounts) :=
    join_assoc_list ha hb hc fun x _ y _ z _ => join_assoc_mount x y z
  have hjoin (lower higher : Container) : join lower higher =
      { name := lower.name
        image := higher.image.or lower.image
        command := Rule.ifNonempty lower.command higher.command
        env := lower.env ++ higher.env
        ports := lower.ports ++ higher.ports
        volumeMounts := join lower.volumeMounts higher.volumeMounts
        resources := Rule.ifCounts Resources.isSet lower.resources higher.resources
        readinessProbe := Rule.ifSet lower.readinessProbe higher.readinessProbe } := rfl
  simp only [hjoin a b, hjoin b c, hjoin _ c, hjoin a, hmounts, Rule.ifSet, Option.or_assoc,
    List.append_assoc, ifNonempty_assoc, ifCounts_assoc]

lemma join_assoc_metadata (a b c : Metadata) : join (join a b) c = join a (join b c) := by
  have hmaps (x y z : SortedMap String) : (x.overlay y).overlay z = x.overlay (y.overlay z) := by
    refine sortedMap_eq_of_find fun key => ?_
    simp only [sortedMap_find_overlay, Option.or_assoc]
  change Metadata.overlay (Metadata.overlay a b) c = Metadata.overlay a (Metadata.overlay b c)
  simp only [Metadata.overlay, hmaps]

/-! ## Templates -/

section Templates

variable {a b c : PodTemplate}

lemma coherentPod_join (ha : CoherentPod a) (hb : CoherentPod b) : CoherentPod (join a b) where
  initContainers := coherent_join ha.initContainers b.spec.initContainers
  containers := coherent_join ha.containers b.spec.containers
  volumes := coherent_join ha.volumes b.spec.volumes
  initMounts := forall_mem_join ha.initContainers hb.initContainers ha.initMounts hb.initMounts
    fun _ higher hlower _ => coherent_join hlower higher.volumeMounts
  mounts := forall_mem_join ha.containers hb.containers ha.mounts hb.mounts
    fun _ higher hlower _ => coherent_join hlower higher.volumeMounts

lemma join_assoc_template (ha : CoherentPod a) (hb : CoherentPod b) (hc : CoherentPod c) :
    join (join a b) c = join a (join b c) := by
  have hinit : join (join a.spec.initContainers b.spec.initContainers) c.spec.initContainers =
      join a.spec.initContainers (join b.spec.initContainers c.spec.initContainers) :=
    join_assoc_list ha.initContainers hb.initContainers hc.initContainers fun x hx y hy z hz =>
      join_assoc_container (ha.initMounts x hx) (hb.initMounts y hy) (hc.initMounts z hz)
  have hcontainers : join (join a.spec.containers b.spec.containers) c.spec.containers =
      join a.spec.containers (join b.spec.containers c.spec.containers) :=
    join_assoc_list ha.containers hb.containers hc.containers fun x hx y hy z hz =>
      join_assoc_container (ha.mounts x hx) (hb.mounts y hy) (hc.mounts z hz)
  have hvolumes : join (join a.spec.volumes b.spec.volumes) c.spec.volumes =
      join a.spec.volumes (join b.spec.volumes c.spec.volumes) :=
    join_assoc_list ha.volumes hb.volumes hc.volumes fun x _ y _ z _ => join_assoc_volume x y z
  have hjoin (lower higher : PodTemplate) : join lower higher =
      { metadata := join lower.metadata higher.metadata
        spec :=
          { initContainers := join lower.spec.initContainers higher.spec.initContainers
            containers := join lower.spec.containers higher.spec.containers
            volumes := join lower.spec.volumes higher.spec.volumes
            automountServiceAccountToken :=
              Rule.ifSet lower.spec.automountServiceAccountToken higher.spec.automountServiceAccountToken
            serviceAccountName :=
              Rule.ifSet lower.spec.serviceAccountName higher.spec.serviceAccountName } } := rfl
  simp only [hjoin a b, hjoin b c, hjoin _ c, hjoin a, join_assoc_metadata, hinit, hcontainers, hvolumes,
    Rule.ifSet, Option.or_assoc]

lemma empty_join_metadata (metadata : Metadata) : join {} metadata = metadata := by
  have hmap (map : SortedMap String) : SortedMap.empty.overlay map = map := by
    refine sortedMap_eq_of_find fun key => ?_
    rw [sortedMap_find_overlay]
    exact Option.or_none
  change Metadata.overlay {} metadata = metadata
  simp only [Metadata.overlay, hmap]

lemma empty_join_template (h : CoherentPod a) : join {} a = a := by
  have hjoin : join {} a =
      { metadata := join {} a.metadata
        spec :=
          { initContainers := join .empty a.spec.initContainers
            containers := join .empty a.spec.containers
            volumes := join .empty a.spec.volumes
            automountServiceAccountToken := Rule.ifSet none a.spec.automountServiceAccountToken
            serviceAccountName := Rule.ifSet none a.spec.serviceAccountName } } := rfl
  rw [hjoin, empty_join_metadata, empty_join_list h.initContainers, empty_join_list h.containers,
    empty_join_list h.volumes]
  simp only [Rule.ifSet, Option.or_none]

end Templates

/-! ## Clashes -/

/-- Lays one template over another, as a layer of an origin. -/
def mergeAs (origin : Origin) (lower higher : PodTemplate) : Except Clash PodTemplate :=
  (lower.overlay (Slot.root origin) higher).toExcept

/-- Nothing stops a layer: it may replace identities, or it changes none. -/
def Lays (origin : Origin) (lower higher : PodTemplate) : Prop :=
  origin = .user ∨ ∀ place : Place, ¬place.Contested lower higher

section Clashes

variable {origin : Origin} {a b c : PodTemplate}

lemma mergeAs_eq_ok_iff (lower : PodTemplate) {higher : PodTemplate} (h : CoherentPod higher)
    (result : PodTemplate) :
    mergeAs origin lower higher = .ok result ↔ Lays origin lower higher ∧ result = join lower higher := by
  have hlayer : mergeAs origin lower higher = lower.withLayer ⟨origin, { pod := higher }⟩ := rfl
  rw [hlayer]
  by_cases horigin : origin = .user
  · rw [horigin, withLayer_user]
    simp [Lays, eq_comm]
  · have hok : (∃ next, lower.withLayer ⟨origin, { pod := higher }⟩ = .ok next) ↔
        ∀ place : Place, ¬place.Contested lower higher := withLayer_ok_iff h horigin
    constructor
    · intro hresult
      exact ⟨.inr (hok.1 ⟨result, hresult⟩), withLayer_eq_ok hresult⟩
    · rintro ⟨hlays, rfl⟩
      obtain ⟨next, hnext⟩ := hok.2 (hlays.resolve_left horigin)
      rw [hnext, withLayer_eq_ok hnext]

/-- Two identities agree where both are given. -/
def Agree (held given : Option IdentityValue) : Prop :=
  ∀ lower higher, held = some lower → given = some higher → lower = higher

lemma not_contested_iff (place : Place) (lower higher : PodTemplate) :
    ¬place.Contested lower higher ↔ Agree (place.held? lower) (place.held? higher) := by
  constructor
  · intro h held given hheld hgiven
    exact by_contra fun hne => h ⟨held, given, hheld, hgiven, hne⟩
  · rintro h ⟨held, given, hheld, hgiven, hne⟩
    exact hne (h held given hheld hgiven)

lemma agree_assoc (x y z : Option IdentityValue) :
    Agree x y ∧ Agree (y.or x) z ↔ Agree y z ∧ Agree x (z.or y) := by
  unfold Agree
  cases x <;> cases y <;> cases z <;> grind

/-- A conflict between three layers shows in one of the two merges, whichever comes first. -/
lemma lays_assoc (a : PodTemplate) (hb : CoherentPod b) (hc : CoherentPod c) :
    Lays origin a b ∧ Lays origin (join a b) c ↔ Lays origin b c ∧ Lays origin a (join b c) := by
  by_cases horigin : origin = .user
  · simp [Lays, horigin]
  · simp only [Lays, horigin, false_or, not_contested_iff, held_join _ hb, held_join _ hc, ← forall_and,
      agree_assoc]

end Clashes

/-- Templates are a monoid for the layers of every origin. -/
theorem mergeAs_monoid (origin : Origin) :
    (∀ a b c, CoherentPod a → CoherentPod b → CoherentPod c → ∀ result,
      (mergeAs origin a b >>= fun ab => mergeAs origin ab c) = .ok result ↔
        (mergeAs origin b c >>= fun bc => mergeAs origin a bc) = .ok result) ∧
    ∀ a, mergeAs origin a {} = .ok a ∧ (CoherentPod a → mergeAs origin {} a = .ok a) := by
  refine ⟨fun a b c ha hb hc result => ?_, fun a => ⟨?_, fun ha => ?_⟩⟩
  · simp only [bind_eq_ok_iff, mergeAs_eq_ok_iff _ hb, mergeAs_eq_ok_iff _ hc]
    constructor
    · rintro ⟨ab, ⟨hab, rfl⟩, habc, rfl⟩
      obtain ⟨hbc, habc'⟩ := (lays_assoc a hb hc).1 ⟨hab, habc⟩
      exact ⟨join b c, ⟨hbc, rfl⟩, (mergeAs_eq_ok_iff a (coherentPod_join hb hc) _).2
        ⟨habc', join_assoc_template ha hb hc⟩⟩
    · rintro ⟨bc, ⟨hbc, rfl⟩, hresult⟩
      obtain ⟨habc', rfl⟩ := (mergeAs_eq_ok_iff a (coherentPod_join hb hc) _).1 hresult
      obtain ⟨hab, habc⟩ := (lays_assoc a hb hc).2 ⟨hbc, habc'⟩
      exact ⟨join a b, ⟨hab, rfl⟩, habc, (join_assoc_template ha hb hc).symm⟩
  · have huncontested (place : Place) : ¬place.Contested a {} := by
      rintro ⟨_, given, -, hgiven, -⟩
      cases place <;> cases hgiven
    exact (mergeAs_eq_ok_iff a coherentPod_empty a).2 ⟨.inr huncontested, rfl⟩
  · have huncontested (place : Place) : ¬place.Contested {} a := by
      rintro ⟨held, _, hheld, -, -⟩
      cases place <;> cases hheld
    exact (mergeAs_eq_ok_iff {} ha a).2 ⟨.inr huncontested, (empty_join_template ha).symm⟩

/-- A container with an image, and a volume that no source is known for. -/
def servedTemplate : PodTemplate where
  spec :=
    { containers := .ofList [
        { name := "app", image := some "app:1", volumeMounts := .ofList [.atPath "data" "/data"] }]
      volumes := .ofList [{ name := "data" }] }

/-- A container without an image and with a resource block that says nothing. -/
def mountedTemplate : PodTemplate where
  spec :=
    { containers := .ofList [
        { name := "shim", image := some "shim:1" },
        { name := "app", resources := some {},
          volumeMounts := .ofList [{ name := "data", readOnly := some true }] }]
      volumes := .ofList [.ofSecret "data" "keys"] }

def imageTemplate (image : String) : PodTemplate where
  spec := { containers := .ofList [{ name := "app", image := some image, env := [{ name := "MODE" }] }] }

/-- Whether the image is repeated or contested decides over both orders of merging. -/
theorem mergeAs_monoid_images :
    CoherentPod servedTemplate ∧ CoherentPod mountedTemplate ∧ (∀ image, CoherentPod (imageTemplate image)) ∧
      (∃ result,
        (mergeAs .defaults servedTemplate mountedTemplate >>= fun ab =>
          mergeAs .defaults ab (imageTemplate "app:1")) = .ok result ∧
        (mergeAs .defaults mountedTemplate (imageTemplate "app:1") >>= fun bc =>
          mergeAs .defaults servedTemplate bc) = .ok result) ∧
      ∀ result,
        (mergeAs .defaults mountedTemplate (imageTemplate "app:2") >>= fun bc =>
          mergeAs .defaults servedTemplate bc) ≠ .ok result := by
  have hserved : CoherentPod servedTemplate :=
    coherentPod_ofList [] [_] [_] rfl rfl rfl (List.forall_mem_singleton.2 (coherent_ofList _))
  have hmounted : CoherentPod mountedTemplate :=
    coherentPod_ofList [] [_, _] [_] rfl rfl rfl
      (List.forall_mem_cons.2 ⟨coherent_empty, List.forall_mem_singleton.2 (coherent_ofList _)⟩)
  have himage (image : String) : CoherentPod (imageTemplate image) :=
    coherentPod_ofList [] [_] [] rfl rfl rfl (List.forall_mem_singleton.2 coherent_empty)
  obtain ⟨hassoc, -⟩ := mergeAs_monoid .defaults
  refine ⟨hserved, hmounted, himage, ⟨_, rfl, (hassoc _ _ _ hserved hmounted (himage _) _).1 rfl⟩, ?_⟩
  intro result hresult
  have hother := (hassoc _ _ _ hserved hmounted (himage "app:2") result).2 hresult
  cases hother

end PodLayers.Proofs
