import Mathlib.Data.List.Basic
import PodLayers.Proofs.ListJoin

/-!
# Identities and their places

The image of a container and the sources of a volume are identities: a layer that is not the user's may
give one, but not a different one. All clashes of a pod with the pod below it are read off the identities
that the two have in each place.
-/

namespace PodLayers.Proofs
open Entries Joins

/-! ## Identities of entries -/

/-- The image of a container, or all sources of a volume. -/
inductive IdentityValue
  | image (text : String)
  | sources (block : VolumeSources)
deriving DecidableEq, Repr

def IdentityValue.describe : IdentityValue → String
  | .image text => text
  | .sources block => block.describe

/-- The clash between the identity held in a slot and the one given to it. -/
def replacing? (slot : Slot) (held given : Option IdentityValue) : Option Clash :=
  match held, given with
  | some lower, some higher =>
    if lower = higher then none else slot.replacing lower.describe higher.describe
  | _, _ => none

lemma replacing_user {slot : Slot} (hslot : slot.origin = .user) (held given : Option IdentityValue) :
    replacing? slot held given = none := by
  have hreplacing (lower higher : String) : slot.replacing lower higher = none := by
    simp [Slot.replacing, hslot, Origin.mayReplace]
  unfold replacing?
  cases held <;> cases given <;> simp [hreplacing]

/-- Entries with an identity in one of their fields, which is all that can clash. -/
class Identifies (α : Type) [Layered α] [Joins α] where
  field : String
  identity? : α → Option IdentityValue
  overlay_clash : ∀ (slot : Slot) (lower higher : α), (Layered.overlay slot lower higher).clash =
    replacing? (slot.field field) (identity? lower) (identity? higher)
  identity_join : ∀ lower higher : α, identity? (join lower higher) = (identity? higher).or (identity? lower)

open Identifies

lemma identity_clash (slot : Slot) (lower higher : Option String) :
    (Rule.identity slot lower higher).clash =
      replacing? slot (lower.map IdentityValue.image) (higher.map IdentityValue.image) := by
  unfold Rule.identity replacing?
  cases higher with
  | none => simp
  | some value =>
    cases lower with
    | none => rfl
    | some existing =>
      by_cases he : existing = value
      · simp [he]
      · cases hc : slot.replacing existing value <;> simp [he, hc, IdentityValue.describe]

instance : Identifies Container where
  field := "image"
  identity? c := c.image.map IdentityValue.image
  overlay_clash slot lower higher := by
    have hmounts (mounts : NamedList VolumeMount) :
        (Layered.overlay (slot.field "volumeMounts") mounts higher.volumeMounts).clash = none :=
      mountsOverlay_clash _ _ _
    change (Container.overlay slot lower higher).clash = _
    simp only [Container.overlay, andThen_clash, map_clash, done_clash, Option.or_none, identity_clash]
    rw [hmounts, Option.or_none]
  identity_join lower higher := by
    change (higher.image.or lower.image).map _ = _
    cases higher.image <;> rfl

instance : Identifies Volume where
  field := "source"
  identity? volume := (Option.guard VolumeSources.isSet volume.sources).map IdentityValue.sources
  overlay_clash slot lower higher := by
    have hclash : (Volume.overlay slot lower higher).clash =
        if higher.hasSource then Volume.clash? slot lower higher else none := by
      unfold Volume.overlay
      cases higher.hasSource <;> cases Volume.clash? slot lower higher <;> simp
    change (Volume.overlay slot lower higher).clash = _
    rw [hclash]
    unfold Volume.clash? Volume.hasSource replacing?
    cases hl : lower.sources.isSet <;> cases hh : higher.sources.isSet <;>
      simp [Option.guard, hl, hh, IdentityValue.describe]
  identity_join lower higher := by
    change (Option.guard VolumeSources.isSet
      (if higher.sources.isSet then higher.sources else lower.sources)).map _ = _
    cases h : higher.sources.isSet <;> simp [Option.guard, h]

/-! ## Identities in lists -/

section Lists

variable {α : Type} [Named α] [Layered α] [Joins α] [Identifies α]

/-- The identity that a list holds under a name. -/
def heldUnder (list : NamedList α) (key : String) : Option IdentityValue := (list.get? key).bind identity?

lemma heldUnder_join (lower : NamedList α) {higher : NamedList α} (h : higher.Coherent) (key : String) :
    heldUnder (join lower higher) key = (heldUnder higher key).or (heldUnder lower key) := by
  rw [heldUnder, get_join _ h, heldUnder, heldUnder]
  cases lower.get? key with
  | none => simp
  | some held =>
    cases higher.get? key with
    | none => simp
    | some given => exact identity_join held given

lemma heldUnder_name {list : NamedList α} (h : list.Coherent) {a : α} (ha : a ∈ list.toList) :
    heldUnder list (Named.name a) = identity? a := by
  rw [heldUnder, (get_eq_some_iff h _ a).2 ⟨ha, rfl⟩, Option.bind_some]

lemma exists_of_heldUnder {list : NamedList α} (h : list.Coherent) {key : String} {value : IdentityValue}
    (hheld : heldUnder list key = some value) : ∃ a ∈ list.toList, Named.name a = key := by
  obtain ⟨a, ha, -⟩ := Option.bind_eq_some_iff.1 hheld
  exact ⟨a, (get_eq_some_iff h key a).1 ha⟩

/-- The clash of an entry with what a list holds under its name. -/
def entryClash? (slot : Slot) (list : NamedList α) (a : α) : Option Clash :=
  replacing? ((slot.entry (Named.name a)).field (field α)) (heldUnder list (Named.name a)) (identity? a)

lemma overlayEntry_clash_eq (slot : Slot) (list : NamedList α) (a : α) :
    (NamedList.overlayEntry slot list a).clash = entryClash? slot list a := by
  rw [overlayEntry_clash, entryClash?, heldUnder]
  cases list.get? (Named.name a) with
  | none => rfl
  | some lower => exact overlay_clash _ lower a

lemma overlayAll_user {slot : Slot} (hslot : slot.origin = .user) (list : NamedList α) (items : List α) :
    (NamedList.overlayAll slot list items).clash = none := by
  induction items generalizing list with
  | nil => rfl
  | cons a rest ih =>
    have hfield : ((slot.entry (Named.name a)).field (field α)).origin = .user := hslot
    have hentry : (NamedList.overlayEntry slot list a).clash = none := by
      rw [overlayEntry_clash_eq, entryClash?, replacing_user hfield]
    rw [NamedList.overlayAll, andThen_clash, hentry, ih, Option.none_or]

/-- Entries with distinct names do not get in each other's way: each meets the list as it was. -/
lemma overlayAll_clash (slot : Slot) (list : NamedList α) {items : List α}
    (hdistinct : (items.map Named.name).Nodup) :
    (NamedList.overlayAll slot list items).clash = items.findSome? (entryClash? slot list) := by
  induction items generalizing list with
  | nil => rfl
  | cons a rest ih =>
    obtain ⟨hnew, hrest⟩ := List.nodup_cons.1 hdistinct
    rw [NamedList.overlayAll, andThen_clash, List.findSome?_cons, ← overlayEntry_clash_eq]
    cases hentry : (NamedList.overlayEntry slot list a).clash with
    | some clash => rfl
    | none =>
      rw [Option.none_or, ih _ hrest, overlayEntry_value hentry]
      apply findSome_congr
      intro b hb
      -- laying `a` changes only what is held under its name, and no later entry has that name
      have hne : Named.name a ≠ Named.name b := fun e => hnew (e ▸ List.mem_map_of_mem hb)
      rw [entryClash?, heldUnder, get_joinEntry, if_neg hne]
      rfl

lemma listOverlay_clash (slot : Slot) (lower : NamedList α) {higher : NamedList α} (h : higher.Coherent) :
    (Layered.overlay slot lower higher).clash =
      higher.toList.findSome? fun a => replacing? ((slot.entry (Named.name a)).field (field α))
        (heldUnder lower (Named.name a)) (heldUnder higher (Named.name a)) := by
  have hdistinct : (higher.toList.map Named.name).Nodup := by
    rw [names_toList h]
    exact h.1
  have hentries : higher.toList.findSome? (entryClash? slot lower) =
      higher.toList.findSome? fun a => replacing? ((slot.entry (Named.name a)).field (field α))
        (heldUnder lower (Named.name a)) (heldUnder higher (Named.name a)) := by
    apply findSome_congr
    intro a ha
    rw [entryClash?, heldUnder_name h ha]
  rw [← hentries]
  exact overlayAll_clash slot lower hdistinct

end Lists

/-! ## Places of a pod -/

/-- Where a pod holds an identity. -/
inductive Place
  | initContainer (name : String)
  | container (name : String)
  | volume (name : String)
deriving DecidableEq, Repr

namespace Place

def path : Place → String
  | .initContainer name => "spec.initContainers[" ++ name ++ "].image"
  | .container name => "spec.containers[" ++ name ++ "].image"
  | .volume name => "spec.volumes[" ++ name ++ "].source"

/-- The identity in a place of a pod. -/
def held? (pod : PodTemplate) : Place → Option IdentityValue
  | .initContainer name => heldUnder pod.spec.initContainers name
  | .container name => heldUnder pod.spec.containers name
  | .volume name => heldUnder pod.spec.volumes name

/-- Two pods have different identities in a place. -/
def Contested (place : Place) (lower higher : PodTemplate) : Prop :=
  ∃ held given, place.held? lower = some held ∧ place.held? higher = some given ∧ held ≠ given

end Place

/-- The places of the entries of a pod, list by list and in their order. -/
def places (pod : PodTemplate) : List Place :=
  pod.spec.initContainers.toList.map (fun c => .initContainer c.name) ++
    (pod.spec.containers.toList.map (fun c => .container c.name) ++
      pod.spec.volumes.toList.map fun volume => .volume volume.name)

/-- The clash in one place between a pod and the pod laid over it. -/
def placeClash? (origin : Origin) (lower higher : PodTemplate) (place : Place) : Option Clash :=
  replacing? ⟨origin, place.path⟩ (place.held? lower) (place.held? higher)

lemma entry_field (origin : Origin) (list name part : String) :
    ((((Slot.root origin).field "spec").field list).entry name).field part =
      ⟨origin, "spec." ++ list ++ "[" ++ name ++ ("]." ++ part)⟩ := by
  have hspec : (Slot.root origin).field "spec" = ⟨origin, "spec"⟩ := rfl
  have hlist : Slot.field ⟨origin, "spec"⟩ list = ⟨origin, "spec." ++ list⟩ := rfl
  have hentry : "spec." ++ list ++ "[" ++ name ++ "]" ≠ "" := by simp
  rw [hspec, hlist, Slot.entry, Slot.field, if_neg hentry]
  congr 1
  rw [String.append_assoc, String.append_assoc]
  rfl

lemma podOverlay_clash (origin : Origin) (lower : PodTemplate) {higher : PodTemplate}
    (h : CoherentPod higher) :
    (PodTemplate.overlay (Slot.root origin) lower higher).clash =
      (places higher).findSome? (placeClash? origin lower higher) := by
  have hspec : (PodTemplate.overlay (Slot.root origin) lower higher).clash =
      (PodSpec.overlay ((Slot.root origin).field "spec") lower.spec higher.spec).clash := rfl
  rw [hspec, specOverlay_clash, listOverlay_clash _ _ h.initContainers, listOverlay_clash _ _ h.containers,
    listOverlay_clash _ _ h.volumes, places]
  simp only [List.findSome?_append, List.findSome?_map, entry_field]
  rfl

lemma placeClash_eq_some_iff {origin : Origin} (horigin : origin ≠ .user) (lower higher : PodTemplate)
    (place : Place) (clash : Clash) :
    placeClash? origin lower higher place = some clash ↔
      ∃ held given, place.held? lower = some held ∧ place.held? higher = some given ∧ held ≠ given ∧
        clash = ⟨place.path, held.describe, given.describe⟩ := by
  have hmay : origin.mayReplace = false := by
    cases origin with
    | user => exact absurd rfl horigin
    | defaults => rfl
    | addon key => rfl
  unfold placeClash? replacing?
  cases place.held? lower with
  | none => simp
  | some held =>
    cases place.held? higher with
    | none => simp
    | some given =>
      by_cases he : held = given
      · simp [he]
      · simp [he, Slot.replacing, hmay, eq_comm]

lemma placeClash_eq_none_iff {origin : Origin} (horigin : origin ≠ .user) (lower higher : PodTemplate)
    (place : Place) : placeClash? origin lower higher place = none ↔ ¬place.Contested lower higher := by
  rw [Option.eq_none_iff_forall_ne_some]
  constructor
  · rintro h ⟨held, given, hheld, hgiven, hne⟩
    have hclash := (placeClash_eq_some_iff horigin lower higher place _).2
      ⟨held, given, hheld, hgiven, hne, rfl⟩
    exact h _ hclash
  · intro h clash hclash
    obtain ⟨held, given, hheld, hgiven, hne, -⟩ := (placeClash_eq_some_iff horigin _ _ _ _).1 hclash
    exact h ⟨held, given, hheld, hgiven, hne⟩

lemma mem_places {pod : PodTemplate} (h : CoherentPod pod) {place : Place} {value : IdentityValue}
    (hvalue : place.held? pod = some value) : place ∈ places pod := by
  rw [places, List.mem_append, List.mem_append, List.mem_map, List.mem_map, List.mem_map]
  cases place with
  | initContainer name =>
    obtain ⟨c, hc, rfl⟩ := exists_of_heldUnder h.initContainers hvalue
    exact .inl ⟨c, hc, rfl⟩
  | container name =>
    obtain ⟨c, hc, rfl⟩ := exists_of_heldUnder h.containers hvalue
    exact .inr (.inl ⟨c, hc, rfl⟩)
  | volume name =>
    obtain ⟨volume, hc, rfl⟩ := exists_of_heldUnder h.volumes hvalue
    exact .inr (.inr ⟨volume, hc, rfl⟩)

lemma held_join (lower : PodTemplate) {higher : PodTemplate} (h : CoherentPod higher) (place : Place) :
    place.held? (join lower higher) = (place.held? higher).or (place.held? lower) := by
  cases place with
  | initContainer name => exact heldUnder_join _ h.initContainers name
  | container name => exact heldUnder_join _ h.containers name
  | volume name => exact heldUnder_join _ h.volumes name

end PodLayers.Proofs
