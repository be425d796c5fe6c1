import PodLayers.Assembly.Layer
import PodLayers.Proofs.EntryLookup

/-!
# Overlays that nothing stops

Laying one value over another stops at a clash. Where it does not, the result is the `join` of the two
values, whatever the slot. Joins are given here for every part of a pod, and a stack of layers that does
not clash is the join of its pods.
-/

namespace PodLayers.Proofs
open Entries

section Merged

variable {α β : Type}

@[simp] lemma done_clash (a : α) : (Merged.done a).clash = none := rfl

@[simp] lemma done_value (a : α) : (Merged.done a).value = a := rfl

@[simp] lemma map_clash (f : α → β) (m : Merged α) : (m.map f).clash = m.clash := rfl

@[simp] lemma map_value (f : α → β) (m : Merged α) : (m.map f).value = f m.value := rfl

lemma andThen_clash (m : Merged α) (next : α → Merged α) :
    (m.andThen next).clash = m.clash.or (next m.value).clash := by
  unfold Merged.andThen
  cases h : m.clash <;> simp [h]

lemma andThen_value {m : Merged α} (next : α → Merged α) (h : m.clash = none) :
    (m.andThen next).value = (next m.value).value := by
  simp [Merged.andThen, h]

/-- What the next step does not change is still there, whether or not it is reached. -/
lemma andThen_keeps (part : α → β) {m : Merged α} {next : α → Merged α}
    (h : ∀ a, part (next a).value = part a) : part (m.andThen next).value = part m.value := by
  unfold Merged.andThen
  split
  · rfl
  · exact h m.value

lemma toExcept_eq_ok_iff (m : Merged α) (a : α) : m.toExcept = .ok a ↔ m.clash = none ∧ m.value = a := by
  unfold Merged.toExcept
  cases h : m.clash <;> simp

lemma toExcept_eq_error_iff (m : Merged α) (clash : Clash) :
    m.toExcept = .error clash ↔ m.clash = some clash := by
  unfold Merged.toExcept
  cases h : m.clash <;> simp

end Merged

lemma overlayEntry_clash {α : Type} [Named α] [Layered α] (slot : Slot) (list : NamedList α) (a : α) :
    (NamedList.overlayEntry slot list a).clash =
      (list.get? (Named.name a)).bind fun lower =>
        (Layered.overlay (slot.entry (Named.name a)) lower a).clash := by
  unfold NamedList.overlayEntry
  cases h : list.get? (Named.name a) <;> simp [h]

/-- Values whose overlay, where nothing clashes, does not depend on the slot. -/
class Joins (α : Type) [Layered α] where
  join : α → α → α
  overlay_value : ∀ (slot : Slot) (lower higher : α),
    (Layered.overlay slot lower higher).clash = none →
      (Layered.overlay slot lower higher).value = join lower higher

/-- A join stays where the lower value stood. -/
class KeepsName (α : Type) [Named α] [Layered α] [Joins α] : Prop where
  name_join : ∀ lower higher : α, Named.name (Joins.join lower higher) = Named.name lower

open Joins

section Piles

variable {α : Type} [Layered α] [Joins α]

/-- A value laid over the one held so far, if any. -/
def laidOver (held : Option α) (a : α) : α :=
  match held with
  | none => a
  | some lower => join lower a

/-- What a run of values with one name becomes, the first of them taken as it is. -/
def pile (items : List α) : Option α := items.foldl (fun held a => some (laidOver held a)) none

lemma pile_cons (first : α) (rest : List α) : pile (first :: rest) = some (rest.foldl join first) := by
  have hrun (held : α) : rest.foldl (fun held a => some (laidOver held a)) (some held) =
      some (rest.foldl join held) := by
    induction rest generalizing held with
    | nil => rfl
    | cons a rest ih => exact ih (join held a)
  exact hrun first

end Piles

/-! ## Lists of named entries -/

section NamedList

variable {α : Type} [Named α] [Layered α] [Joins α]

def joinEntry (list : NamedList α) (a : α) : NamedList α :=
  ⟨assign (Named.name a) (laidOver (list.get? (Named.name a)) a) list.entries⟩

/-- The entries laid over a list one after another. -/
def joinAll (list : NamedList α) (items : List α) : NamedList α := items.foldl joinEntry list

lemma overlayEntry_value {slot : Slot} {list : NamedList α} {a : α}
    (h : (NamedList.overlayEntry slot list a).clash = none) :
    (NamedList.overlayEntry slot list a).value = joinEntry list a := by
  unfold NamedList.overlayEntry joinEntry at *
  cases hheld : list.get? (Named.name a) with
  | none => simp [hheld, laidOver, assign_of_find_none (a := a) hheld]
  | some lower =>
    simp only [hheld, map_clash] at h
    simp [hheld, laidOver, overlay_value _ _ _ h]

lemma overlayAll_value {slot : Slot} {list : NamedList α} {items : List α}
    (h : (NamedList.overlayAll slot list items).clash = none) :
    (NamedList.overlayAll slot list items).value = joinAll list items := by
  induction items generalizing list with
  | nil => rfl
  | cons a rest ih =>
    rw [NamedList.overlayAll, andThen_clash, Option.or_eq_none_iff] at h
    obtain ⟨hentry, hrest⟩ := h
    rw [NamedList.overlayAll, andThen_value _ hentry, ih hrest, overlayEntry_value hentry]
    rfl

instance : Joins (NamedList α) where
  join lower higher := joinAll lower higher.toList
  overlay_value _ _ _ h := overlayAll_value h

lemma get_joinEntry (list : NamedList α) (a : α) (key : String) :
    (joinEntry list a).get? key =
      if Named.name a = key then some (laidOver (list.get? key) a) else list.get? key := by
  rw [joinEntry, NamedList.get?, find_assign]
  split
  · rename_i h
    rw [h]
  · rfl

/-- Only the entries of a name count for it, and they count in their order. -/
lemma get_joinAll (list : NamedList α) (items : List α) (key : String) :
    (joinAll list items).get? key =
      (items.filter fun a => Named.name a = key).foldl (fun held a => some (laidOver held a))
        (list.get? key) := by
  induction items generalizing list with
  | nil => rfl
  | cons a rest ih =>
    have hstep : joinAll list (a :: rest) = joinAll (joinEntry list a) rest := rfl
    rw [hstep, ih, get_joinEntry, List.filter_cons]
    by_cases h : Named.name a = key <;> simp [h]

lemma name_foldl_join [KeepsName α] (first : α) (rest : List α) :
    Named.name (rest.foldl join first) = Named.name first := by
  induction rest generalizing first with
  | nil => rfl
  | cons a rest ih => rw [List.foldl_cons, ih, KeepsName.name_join]

end NamedList

/-! ## Parts of a pod -/

instance : Joins VolumeMount where
  join := VolumeMount.overlay
  overlay_value _ _ _ _ := rfl

instance : Joins Volume where
  join lower higher := { lower with sources := if higher.hasSource then higher.sources else lower.sources }
  overlay_value slot lower higher h := by
    change (Volume.overlay slot lower higher).clash = none at h
    change (Volume.overlay slot lower higher).value = _
    unfold Volume.overlay at *
    cases hs : higher.hasSource with
    | false => simp
    | true =>
      cases hc : Volume.clash? slot lower higher with
      | none => simp
      | some clash => simp [hs, hc] at h

lemma identity_value {slot : Slot} {lower higher : Option String}
    (h : (Rule.identity slot lower higher).clash = none) :
    (Rule.identity slot lower higher).value = higher.or lower := by
  unfold Rule.identity at *
  cases higher with
  | none => rfl
  | some value =>
    cases lower with
    | none => rfl
    | some existing =>
      by_cases he : existing = value
      · simp [he]
      · cases hc : slot.replacing existing value with
        | none => simp [he, hc]
        | some clash => simp [he, hc] at h

lemma mountsOverlay_clash (slot : Slot) (lower : NamedList VolumeMount) (mounts : List VolumeMount) :
    (NamedList.overlayAll slot lower mounts).clash = none := by
  induction mounts generalizing lower with
  | nil => rfl
  | cons mount rest ih =>
    have hentry : (NamedList.overlayEntry slot lower mount).clash = none := by
      rw [overlayEntry_clash]
      cases lower.get? (Named.name mount) <;> rfl
    rw [NamedList.overlayAll, andThen_clash, hentry, ih]
    rfl

instance : Joins Container where
  join lower higher :=
    { name := lower.name
      image := higher.image.or lower.image
      command := Rule.ifNonempty lower.command higher.command
      env := lower.env ++ higher.env
      ports := lower.ports ++ higher.ports
      volumeMounts := join lower.volumeMounts higher.volumeMounts
      resources := Rule.ifCounts Resources.isSet lower.resources higher.resources
      readinessProbe := Rule.ifSet lower.readinessProbe higher.readinessProbe }
  overlay_value slot lower higher h := by
    change (Container.overlay slot lower higher).clash = none at h
    change (Container.overlay slot lower higher).value = _
    unfold Container.overlay at *
    rw [andThen_clash, Option.or_eq_none_iff, map_clash] at h
    rw [andThen_value _ (by exact h.1), andThen_value _ (by exact mountsOverlay_clash _ _ _)]
    simp only [map_value, done_value, identity_value h.1]
    rw [overlay_value _ _ _ (by exact mountsOverlay_clash _ _ _)]

instance : KeepsName VolumeMount := ⟨fun _ _ => rfl⟩

instance : KeepsName Volume := ⟨fun _ _ => rfl⟩

instance : KeepsName Container := ⟨fun _ _ => rfl⟩

instance : Joins Metadata where
  join := Metadata.overlay
  overlay_value _ _ _ _ := rfl

lemma specOverlay_clash (slot : Slot) (lower higher : PodSpec) :
    (PodSpec.overlay slot lower higher).clash =
      (Layered.overlay (slot.field "initContainers") lower.initContainers higher.initContainers).clash.or
        ((Layered.overlay (slot.field "containers") lower.containers higher.containers).clash.or
          (Layered.overlay (slot.field "volumes") lower.volumes higher.volumes).clash) := by
  simp only [PodSpec.overlay, andThen_clash, map_clash, done_clash, Option.or_none, Option.or_assoc]
  rw [andThen_keeps PodSpec.volumes fun _ => rfl]
  rfl

instance : Joins PodSpec where
  join lower higher :=
    { initContainers := join lower.initContainers higher.initContainers
      containers := join lower.containers higher.containers
      volumes := join lower.volumes higher.volumes
      automountServiceAccountToken :=
        Rule.ifSet lower.automountServiceAccountToken higher.automountServiceAccountToken
      serviceAccountName := Rule.ifSet lower.serviceAccountName higher.serviceAccountName }
  overlay_value slot lower higher h := by
    change (PodSpec.overlay slot lower higher).clash = none at h
    change (PodSpec.overlay slot lower higher).value = _
    rw [specOverlay_clash, Option.or_eq_none_iff, Option.or_eq_none_iff] at h
    obtain ⟨hinit, hcontainers, hvolumes⟩ := h
    simp [PodSpec.overlay, andThen_clash, andThen_value, hinit, hcontainers, hvolumes,
      overlay_value _ _ _ hinit, overlay_value _ _ _ hcontainers, overlay_value _ _ _ hvolumes]

instance : Joins PodTemplate where
  join lower higher :=
    { metadata := join lower.metadata higher.metadata
      spec := join lower.spec higher.spec }
  overlay_value slot lower higher h := by
    have hspec : (Layered.overlay (slot.field "spec") lower.spec higher.spec).clash = none := h
    change (PodTemplate.overlay slot lower higher).value = _
    rw [← overlay_value _ _ _ hspec]
    rfl

/-! ## Stacks -/

/-- The pod of a stack in which nothing clashes. -/
def podOf (layers : List Layer) : PodTemplate :=
  layers.foldl (fun pod layer => join pod layer.fragment.pod) {}

lemma withLayer_eq_ok {pod result : PodTemplate} {layer : Layer} (h : pod.withLayer layer = .ok result) :
    result = join pod layer.fragment.pod := by
  obtain ⟨hclash, hvalue⟩ := (toExcept_eq_ok_iff _ _).1 h
  rw [← hvalue]
  exact overlay_value (Slot.root layer.origin) pod layer.fragment.pod hclash

lemma foldlM_withLayer_eq_ok {layers : List Layer} {pod result : PodTemplate}
    (h : layers.foldlM PodTemplate.withLayer pod = .ok result) :
    result = layers.foldl (fun pod layer => join pod layer.fragment.pod) pod := by
  induction layers generalizing pod with
  | nil => exact (Except.ok.inj h).symm
  | cons layer rest ih =>
    rw [List.foldlM_cons] at h
    cases hlayer : pod.withLayer layer with
    | error clash => simp [hlayer, bind, Except.bind] at h
    | ok next =>
      rw [hlayer] at h
      rw [ih h, withLayer_eq_ok hlayer]
      rfl

lemma stackPods_eq_ok {layers : List Layer} {pod : PodTemplate} (h : stackPods layers = .ok pod) :
    pod = podOf layers := foldlM_withLayer_eq_ok h

/-- A list of a stack's pod is the join of the lists of all layers, read one after another. -/
lemma list_podOf {α : Type} [Named α] [Layered α] [Joins α] (list : PodTemplate → NamedList α)
    (hlist : ∀ lower higher, list (join lower higher) = join (list lower) (list higher))
    (layers : List Layer) :
    list (podOf layers) =
      joinAll (list {}) (layers.flatMap fun layer => (list layer.fragment.pod).toList) := by
  rw [podOf, joinAll, List.foldl_flatMap]
  exact (List.foldl_hom list fun pod layer => (hlist pod layer.fragment.pod).symm).symm

end PodLayers.Proofs
