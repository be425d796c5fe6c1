import Mathlib.Data.List.Induction
import PodLayers.Proofs.IdentityPlaces

/-!
# Clashes of identities

A stack of layers that are not the user's clashes exactly when two of them give different identities to
one place. The clash is that of the first layer and the first place where this shows. The layer of the user
never clashes.
-/

namespace PodLayers.Proofs
open Entries Joins

/-! ## One layer -/

section OneLayer

variable {pod : PodTemplate} {layer : Layer}

/-- The first place that a layer contests decides with which clash it fails. -/
lemma withLayer_eq_error_iff (hcoherent : CoherentPod layer.fragment.pod) (horigin : layer.origin ≠ .user)
    (clash : Clash) :
    pod.withLayer layer = .error clash ↔
      ∃ before place after held given, places layer.fragment.pod = before ++ place :: after ∧
        (∀ other ∈ before, ¬other.Contested pod layer.fragment.pod) ∧
        place.held? pod = some held ∧ place.held? layer.fragment.pod = some given ∧ held ≠ given ∧
        clash = ⟨place.path, held.describe, given.describe⟩ := by
  rw [PodTemplate.withLayer, toExcept_eq_error_iff, podOverlay_clash _ _ hcoherent,
    List.findSome?_eq_some_iff]
  simp only [placeClash_eq_some_iff horigin, placeClash_eq_none_iff horigin]
  constructor
  · rintro ⟨before, place, after, hplaces, ⟨held, given, hclash⟩, hbefore⟩
    exact ⟨before, place, after, held, given, hplaces, hbefore, hclash⟩
  · rintro ⟨before, place, after, held, given, hplaces, hbefore, hclash⟩
    exact ⟨before, place, after, hplaces, ⟨held, given, hclash⟩, hbefore⟩

lemma withLayer_ok_iff (hcoherent : CoherentPod layer.fragment.pod) (horigin : layer.origin ≠ .user) :
    (∃ next, pod.withLayer layer = .ok next) ↔ ∀ place : Place, ¬place.Contested pod layer.fragment.pod := by
  have hnone : (∃ next, pod.withLayer layer = .ok next) ↔
      ∀ place ∈ places layer.fragment.pod, ¬place.Contested pod layer.fragment.pod := by
    simp only [PodTemplate.withLayer, toExcept_eq_ok_iff, podOverlay_clash _ _ hcoherent,
      List.findSome?_eq_none_iff, placeClash_eq_none_iff horigin, exists_and_left, exists_eq', and_true]
  rw [hnone]
  refine ⟨fun h place hcontested => ?_, fun h place _ => h place⟩
  have hmem : place ∈ places layer.fragment.pod := by
    obtain ⟨_, _, -, hgiven, -⟩ := hcontested
    exact mem_places hcoherent hgiven
  exact h place hmem hcontested

end OneLayer

/-! ## Stacks -/

/-- What a pod has in a place is what every layer that gives an identity there gives. -/
structure HeldOf (layers : List Layer) (pod : PodTemplate) : Prop where
  given : ∀ layer ∈ layers, ∀ (place : Place) (value : IdentityValue),
    place.held? layer.fragment.pod = some value → place.held? pod = some value
  giver : ∀ (place : Place) (value : IdentityValue), place.held? pod = some value →
    ∃ layer ∈ layers, place.held? layer.fragment.pod = some value

lemma heldOf_empty : HeldOf [] {} where
  given _ h := absurd h List.not_mem_nil
  giver place _ h := by cases place <;> cases h

/-- An uncontested layer leaves everything that is held in its place. -/
lemma heldOf_join {layers : List Layer} {pod : PodTemplate} {layer : Layer} (h : HeldOf layers pod)
    (hcoherent : CoherentPod layer.fragment.pod)
    (huncontested : ∀ place : Place, ¬place.Contested pod layer.fragment.pod) :
    HeldOf (layers ++ [layer]) (join pod layer.fragment.pod) where
  given other hother place value hvalue := by
    rw [held_join _ hcoherent]
    rcases List.mem_append.1 hother with hother | hother
    · have hheld := h.given other hother place value hvalue
      cases hgiven : place.held? layer.fragment.pod with
      | none => exact hheld
      | some given =>
        have heq : value = given :=
          by_contra fun hne => huncontested place ⟨value, given, hheld, hgiven, hne⟩
        rw [heq, Option.some_or]
    · obtain rfl : other = layer := List.mem_singleton.1 hother
      rw [hvalue, Option.some_or]
  giver place value hvalue := by
    rw [held_join _ hcoherent, Option.or_eq_some_iff] at hvalue
    rcases hvalue with hvalue | ⟨-, hvalue⟩
    · exact ⟨layer, by simp, hvalue⟩
    · obtain ⟨other, hother, hgives⟩ := h.giver place value hvalue
      exact ⟨other, List.mem_append_left _ hother, hgives⟩

lemma contested_iff {layers : List Layer} {pod : PodTemplate} (h : HeldOf layers pod) (place : Place)
    (higher : PodTemplate) :
    place.Contested pod higher ↔ ∃ lower ∈ layers, place.Contested lower.fragment.pod higher := by
  constructor
  · rintro ⟨held, given, hheld, hgiven, hne⟩
    obtain ⟨lower, hlower, hgives⟩ := h.giver place held hheld
    exact ⟨lower, hlower, held, given, hgives, hgiven, hne⟩
  · rintro ⟨lower, hlower, held, given, hgives, hgiven, hne⟩
    exact ⟨held, given, h.given lower hlower place held hgives, hgiven, hne⟩

/-- Layers `i < j` of a stack give different identities to a place. -/
def Conflict (layers : List Layer) (i j : Nat) (place : Place) : Prop :=
  i < j ∧ ∃ lower higher, layers[i]? = some lower ∧ layers[j]? = some higher ∧
    place.Contested lower.fragment.pod higher.fragment.pod

lemma conflict_take {layers : List Layer} {i j n : Nat} {place : Place} (hj : j < n) :
    Conflict (layers.take n) i j place ↔ Conflict layers i j place := by
  refine and_congr_right fun hi => ?_
  rw [List.getElem?_take_of_lt hj, List.getElem?_take_of_lt (by omega)]

lemma exists_conflict_iff {layers : List Layer} {j : Nat} {layer : Layer} (hj : layers[j]? = some layer)
    (place : Place) :
    (∃ i, Conflict layers i j place) ↔
      ∃ lower ∈ layers.take j, place.Contested lower.fragment.pod layer.fragment.pod := by
  constructor
  · rintro ⟨i, hi, lower, higher, hlower, hhigher, hcontested⟩
    obtain rfl : layer = higher := Option.some.inj (hj.symm.trans hhigher)
    refine ⟨lower, List.mem_of_getElem? (i := i) ?_, hcontested⟩
    rw [List.getElem?_take_of_lt hi, hlower]
  · rintro ⟨lower, hlower, hcontested⟩
    obtain ⟨i, hi⟩ := List.mem_iff_getElem?.1 hlower
    rw [List.getElem?_take] at hi
    by_cases hij : i < j
    · rw [if_pos hij] at hi
      exact ⟨i, hij, lower, layer, hi, hj, hcontested⟩
    · simp [hij] at hi

/-- The clash of a stack: it is that of the lowest layer in conflict with one below it, over the first of
its places where it is, between the identity held so far and its own. -/
structure FirstConflict (layers : List Layer) (clash : Clash) (j : Nat) (place : Place) : Prop where
  conflict : ∃ i, Conflict layers i j place
  lowest : ∀ i' j' place', Conflict layers i' j' place' → j ≤ j'
  first : ∃ layer before after, layers[j]? = some layer ∧
    places layer.fragment.pod = before ++ place :: after ∧ ∀ other ∈ before, ∀ i, ¬Conflict layers i j other
  text : ∃ layer pod held given, layers[j]? = some layer ∧ stackPods (layers.take j) = .ok pod ∧
    place.held? pod = some held ∧ place.held? layer.fragment.pod = some given ∧
    clash = ⟨place.path, held.describe, given.describe⟩

section Stack

variable {layers : List Layer}

lemma heldOf_stackPods
    (hlayers : ∀ layer ∈ layers, CoherentPod layer.fragment.pod ∧ layer.origin ≠ .user) {pod : PodTemplate}
    (h : stackPods layers = .ok pod) : HeldOf layers pod := by
  induction layers using List.reverseRecOn generalizing pod with
  | nil =>
    obtain rfl : {} = pod := Except.ok.inj h
    exact heldOf_empty
  | append_singleton before layer ih =>
    rw [stackPods, List.foldlM_append, bind_eq_ok_iff] at h
    obtain ⟨below, hbelow, hlayer⟩ := h
    replace hlayer : below.withLayer layer = .ok pod := by simpa using hlayer
    have hheld : HeldOf before below :=
      ih (fun other hother => hlayers other (List.mem_append_left _ hother)) hbelow
    obtain ⟨hcoherent, horigin⟩ := hlayers layer (by simp)
    rw [withLayer_eq_ok hlayer]
    exact heldOf_join hheld hcoherent ((withLayer_ok_iff hcoherent horigin).1 ⟨pod, hlayer⟩)

lemma not_conflict_of_ok
    (hlayers : ∀ layer ∈ layers, CoherentPod layer.fragment.pod ∧ layer.origin ≠ .user) {pod : PodTemplate}
    (h : stackPods layers = .ok pod) (i j : Nat) (place : Place) : ¬Conflict layers i j place := by
  intro hconflict
  obtain ⟨layer, hj⟩ : ∃ layer, layers[j]? = some layer := by
    obtain ⟨-, -, layer, -, hj, -⟩ := hconflict
    exact ⟨layer, hj⟩
  obtain ⟨lower, hlower, hcontested⟩ := (exists_conflict_iff hj place).1 ⟨i, hconflict⟩
  obtain ⟨hcoherent, horigin⟩ := hlayers layer (List.mem_of_getElem? hj)
  have hsplit : layers = layers.take j ++ layer :: layers.drop (j + 1) := by
    obtain ⟨hlt, rfl⟩ := List.getElem?_eq_some_iff.1 hj
    rw [← List.drop_eq_getElem_cons hlt, List.take_append_drop]
  rw [hsplit, stackPods, List.foldlM_append, bind_eq_ok_iff] at h
  obtain ⟨below, hbelow, habove⟩ := h
  rw [List.foldlM_cons, bind_eq_ok_iff] at habove
  obtain ⟨next, hnext, -⟩ := habove
  have hheld : HeldOf (layers.take j) below :=
    heldOf_stackPods (fun other hother => hlayers other (List.mem_of_mem_take hother)) hbelow
  have hcontested' : place.Contested below layer.fragment.pod :=
    (contested_iff hheld place _).2 ⟨lower, hlower, hcontested⟩
  exact (withLayer_ok_iff hcoherent horigin).1 ⟨next, hnext⟩ place hcontested'

lemma firstConflict_of_error
    (hlayers : ∀ layer ∈ layers, CoherentPod layer.fragment.pod ∧ layer.origin ≠ .user) {clash : Clash}
    (h : stackPods layers = .error clash) : ∃ j place, FirstConflict layers clash j place := by
  obtain ⟨before, layer, after, below, hsplit, hbelow, hlayer⟩ := foldlM_eq_error h
  -- `before` went through, so it is free of conflicts and `below` holds what its layers give
  have htake : layers.take before.length = before := by rw [hsplit, List.take_left]
  have hj : layers[before.length]? = some layer := by simp [hsplit]
  have hbefore : ∀ other ∈ before, CoherentPod other.fragment.pod ∧ other.origin ≠ .user := by
    intro other hother
    exact hlayers other (hsplit ▸ List.mem_append_left _ hother)
  have hconflict (place : Place) :
      (∃ i, Conflict layers i before.length place) ↔ place.Contested below layer.fragment.pod := by
    rw [exists_conflict_iff hj, contested_iff (heldOf_stackPods hbefore hbelow), htake]
  obtain ⟨hcoherent, horigin⟩ := hlayers layer (List.mem_of_getElem? hj)
  obtain ⟨earlier, place, later, held, given, hplaces, hearlier, hheld, hgiven, hne, hclash⟩ :=
    (withLayer_eq_error_iff hcoherent horigin clash).1 hlayer
  refine ⟨before.length, place, ?_⟩
  exact {
    conflict := (hconflict place).2 ⟨held, given, hheld, hgiven, hne⟩
    lowest := fun i' j' place' h' => by
      by_contra hlt
      rw [← conflict_take (n := before.length) (by omega), htake] at h'
      exact not_conflict_of_ok hbefore hbelow i' j' place' h'
    first := ⟨layer, earlier, later, hj, hplaces, fun other hother i hi =>
      hearlier other hother ((hconflict other).1 ⟨i, hi⟩)⟩
    text := ⟨layer, below, held, given, hj, by rw [htake]; exact hbelow, hheld, hgiven, hclash⟩ }

end Stack

/-- The layer of the user replaces what it likes. -/
lemma withLayer_user (pod : PodTemplate) (fragment : Fragment) :
    pod.withLayer ⟨.user, fragment⟩ = .ok (join pod fragment.pod) := by
  have hspec : (PodTemplate.overlay (Slot.root .user) pod fragment.pod).clash =
      (PodSpec.overlay ((Slot.root .user).field "spec") pod.spec fragment.pod.spec).clash := rfl
  have hclash : (PodTemplate.overlay (Slot.root .user) pod fragment.pod).clash = none := by
    rw [hspec, specOverlay_clash, Option.or_eq_none_iff, Option.or_eq_none_iff]
    exact ⟨overlayAll_user rfl _ _, overlayAll_user rfl _ _, overlayAll_user rfl _ _⟩
  exact (toExcept_eq_ok_iff _ _).2 ⟨hclash, overlay_value (Slot.root .user) pod fragment.pod hclash⟩

/-- When a stack of layers that are not the user's clashes, and with which clash. -/
theorem stackPods_clash_iff_conflict {layers : List Layer}
    (hcoherent : ∀ layer ∈ layers, CoherentPod layer.fragment.pod)
    (horigin : ∀ layer ∈ layers, layer.origin ≠ .user) :
    ((∃ clash, stackPods layers = .error clash) ↔ ∃ i j place, Conflict layers i j place) ∧
      (∀ clash, stackPods layers = .error clash → ∃ j place, FirstConflict layers clash j place) ∧
      ∀ (pod : PodTemplate) (fragment : Fragment),
        ∃ result, pod.withLayer ⟨.user, fragment⟩ = .ok result := by
  have hlayers : ∀ layer ∈ layers, CoherentPod layer.fragment.pod ∧ layer.origin ≠ .user :=
    fun layer hlayer => ⟨hcoherent layer hlayer, horigin layer hlayer⟩
  have hfirst {clash : Clash} (h : stackPods layers = .error clash) :
      ∃ j place, FirstConflict layers clash j place := firstConflict_of_error hlayers h
  refine ⟨⟨?_, ?_⟩, fun clash => hfirst, fun pod fragment => ⟨_, withLayer_user pod fragment⟩⟩
  · rintro ⟨clash, h⟩
    obtain ⟨j, place, hconflict⟩ := hfirst h
    obtain ⟨i, hi⟩ := hconflict.conflict
    exact ⟨i, j, place, hi⟩
  · rintro ⟨i, j, place, hconflict⟩
    cases h : stackPods layers with
    | error clash => exact ⟨clash, rfl⟩
    | ok pod => exact absurd hconflict (not_conflict_of_ok hlayers h i j place)

/-- Three layers, of which the third repeats an init image of the first and then contests the sources that
the second gave to a volume. -/
def contestedStack : List Layer :=
  [⟨.defaults,
      { pod := { spec := { initContainers := .ofList [{ name := "init", image := some "tools:1" }] } } }⟩,
    ⟨.addon "keystore", { pod := { spec := { volumes := .ofList [.ofSecret "data" "keys"] } } }⟩,
    ⟨.addon "scratch",
      { pod :=
          { spec :=
              { initContainers := .ofList [{ name := "init", image := some "tools:1" }]
                volumes := .ofList [.scratch "logs", .scratch "data"] } } }⟩]

theorem contestedStack_clash :
    (∀ layer ∈ contestedStack, CoherentPod layer.fragment.pod) ∧
      (∀ layer ∈ contestedStack, layer.origin ≠ .user) ∧
      stackPods contestedStack = .error ⟨"spec.volumes[data].source", "secret/keys", "emptyDir"⟩ ∧
      (∃ i j place, Conflict contestedStack i j place) ∧
      ∃ j place,
        FirstConflict contestedStack ⟨"spec.volumes[data].source", "secret/keys", "emptyDir"⟩ j place := by
  have hcoherent : ∀ layer ∈ contestedStack, CoherentPod layer.fragment.pod := by
    simp only [contestedStack, List.forall_mem_cons]
    refine ⟨coherentPod_ofList [_] [] [] rfl rfl rfl (List.forall_mem_singleton.2 coherent_empty),
      coherentPod_ofList [] [] [_] rfl rfl rfl fun _ h => absurd h List.not_mem_nil,
      coherentPod_ofList [_] [] [_, _] rfl rfl rfl (List.forall_mem_singleton.2 coherent_empty),
      fun _ h => absurd h List.not_mem_nil⟩
  have horigin : ∀ layer ∈ contestedStack, layer.origin ≠ .user := by
    simp [contestedStack]
  have herror : stackPods contestedStack =
      .error ⟨"spec.volumes[data].source", "secret/keys", "emptyDir"⟩ := rfl
  obtain ⟨hiff, hfirst, -⟩ := stackPods_clash_iff_conflict hcoherent horigin
  exact ⟨hcoherent, horigin, herror, hiff.1 ⟨_, herror⟩, hfirst _ herror⟩

end PodLayers.Proofs
