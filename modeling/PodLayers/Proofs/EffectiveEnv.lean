import PodLayers.Proofs.ListJoin
import PodLayers.Proofs.SlotMeaning

/-!
# Effective environments

The environment of a container is a list of variables in which a name may occur several times, and layers only
append to it. As the container sees it, every name stands where it first occurs, with its last value. So a layer
changes what it sets where that stands already, and adds the rest at the end.
-/

namespace PodLayers.Proofs
open Entries Joins

/-! ## Entries set in place -/

section Entries

variable {α : Type}

/-- The entries with one more value: where its name stands, or at the end when the name is new. -/
def putInPlace (entries : List (String × α)) (entry : String × α) : List (String × α) :=
  if entry.1 ∈ keys entries then
    entries.map fun other => if other.1 = entry.1 then (other.1, entry.2) else other
  else entries ++ [entry]

/-- The value of the last entry of a name. -/
def lastAt (key : String) (entries : List (String × α)) : Option α :=
  lastSet (fun entry => if entry.1 = key then some entry.2 else none) entries

/-- Entries set one after another. -/
def assignAll (start entries : List (String × α)) : List (String × α) :=
  entries.foldl (fun seen entry => assign entry.1 entry.2 seen) start

variable {start entries : List (String × α)}

lemma assign_eq_putInPlace (hd : (keys start).Nodup) (entry : String × α) :
    assign entry.1 entry.2 start = putInPlace start entry := by
  by_cases hkey : entry.1 ∈ keys start
  · rw [putInPlace, if_pos hkey]
    have hkeys : keys (assign entry.1 entry.2 start) = keys start := by rw [keys_assign, if_pos hkey]
    refine eq_of_find (hkeys ▸ hd) ?_ fun key => ?_
    · rw [hkeys, keys, keys, List.map_map]
      refine List.map_congr_left fun other _ => ?_
      by_cases h : other.1 = entry.1 <;> simp [h]
    · rw [find_assign, find_map_key entry.1 fun _ => entry.2]
      by_cases h : key = entry.1
      · obtain ⟨old, hold⟩ := Option.isSome_iff_exists.1 ((find_isSome_iff entry.1 start).2 hkey)
        simp [h, hold]
      · rw [if_neg h, if_neg fun e => h e.symm]
  · rw [putInPlace, if_neg hkey, assign_of_find_none ((find_eq_none_iff _ _).2 hkey)]

lemma lastAt_of_nodup (hd : (keys entries).Nodup) (key : String) : lastAt key entries = find? key entries := by
  induction entries with
  | nil => rfl
  | cons head rest ih =>
    obtain ⟨k, a⟩ := head
    obtain ⟨hk, hrest⟩ : k ∉ keys rest ∧ (keys rest).Nodup := by simpa [keys] using hd
    rw [lastAt, lastSet_cons, ← lastAt, ih hrest, find_cons]
    by_cases hkey : k = key
    · subst hkey
      simp [(find_eq_none_iff k rest).2 hk]
    · simp [hkey]

lemma keys_assignAll (hd : (keys start).Nodup) (entries : List (String × α)) :
    keys (assignAll start entries) = (keys start ++ keys entries).eraseDups :=
  foldl_eraseDups (fun seen entry => keys_assign entry.1 entry.2 seen) hd entries

lemma find_assignAll (start entries : List (String × α)) (key : String) :
    find? key (assignAll start entries) = (lastAt key entries).or (find? key start) := by
  induction entries generalizing start with
  | nil => rfl
  | cons entry rest ih =>
    rw [assignAll, List.foldl_cons, ← assignAll, ih, find_assign, lastAt, lastAt, lastSet_cons]
    by_cases hkey : entry.1 = key <;> simp [hkey]

lemma keys_assignAll_nil (entries : List (String × α)) :
    keys (assignAll [] entries) = (keys entries).eraseDups := keys_assignAll (by exact List.nodup_nil) entries

/-- It makes no difference to set entries one after another that were first brought together. -/
lemma assignAll_assignAll (hd : (keys start).Nodup) (entries : List (String × α)) :
    assignAll start (assignAll [] entries) = assignAll start entries := by
  refine eq_of_find ?_ ?_ fun key => ?_
  · rw [keys_assignAll hd]
    exact nodup_eraseDups _
  · rw [keys_assignAll hd, keys_assignAll hd, keys_assignAll_nil, eraseDups_append_right]
  · have hnodup : (keys (assignAll [] entries)).Nodup := by
      rw [keys_assignAll_nil]
      exact nodup_eraseDups _
    rw [find_assignAll, find_assignAll, lastAt_of_nodup hnodup, find_assignAll, find?, Option.or_none]

lemma assignAll_eq_putInPlace (hd : (keys start).Nodup) (entries : List (String × α)) :
    assignAll start entries = entries.foldl putInPlace start := by
  induction entries using List.reverseRecOn with
  | nil => rfl
  | append_singleton entries entry ih =>
    have hnodup : (keys (assignAll start entries)).Nodup := by
      rw [keys_assignAll hd]
      exact nodup_eraseDups _
    rw [assignAll, List.foldl_concat, ← assignAll, assign_eq_putInPlace hnodup, ih, List.foldl_concat]

end Entries

/-! ## Environments -/

/-- The variables of a container as entries. -/
def envEntries (c : Container) : List (String × Option String) := c.env.map fun var => (var.name, var.value)

lemma effectiveEnv_eq (c : Container) : c.effectiveEnv = assignAll [] (envEntries c) := by
  rw [Container.effectiveEnv, assignAll, envEntries, List.foldl_map]

lemma keys_effectiveEnv (c : Container) : keys c.effectiveEnv = (c.env.map EnvVar.name).eraseDups := by
  rw [effectiveEnv_eq, keys_assignAll_nil, envEntries, keys, List.map_map]
  rfl

lemma nodup_effectiveEnv (c : Container) : (keys c.effectiveEnv).Nodup := by
  rw [keys_effectiveEnv]
  exact nodup_eraseDups _

lemma effectiveEnv_of_overlay {slot : Slot} {lower higher merged : Container}
    (h : (Container.overlay slot lower higher).toExcept = .ok merged) :
    merged.effectiveEnv = assignAll lower.effectiveEnv higher.effectiveEnv := by
  obtain ⟨hclash, hvalue⟩ := (toExcept_eq_ok_iff _ _).1 h
  have hjoin : merged = join lower higher := hvalue.symm.trans (overlay_value slot lower higher hclash)
  have henv : envEntries merged = envEntries lower ++ envEntries higher := by
    rw [hjoin]
    exact List.map_append
  rw [effectiveEnv_eq higher, assignAll_assignAll (nodup_effectiveEnv lower), effectiveEnv_eq, henv,
    effectiveEnv_eq lower]
  exact List.foldl_append

/-- A container sees each name once, where it first occurs, with its last value. Of two layers that go through,
the higher one sets the values of its names, in its order: where the lower one has the name already, and behind
all names of the lower one otherwise. -/
theorem effectiveEnv_layers :
    (∀ c : Container,
      (keys c.effectiveEnv).Nodup ∧ keys c.effectiveEnv = (c.env.map EnvVar.name).eraseDups ∧
        ∀ name, find? name c.effectiveEnv = lastAt name (envEntries c)) ∧
    ∀ (slot : Slot) (lower higher merged : Container),
      (Container.overlay slot lower higher).toExcept = .ok merged →
        merged.effectiveEnv = higher.effectiveEnv.foldl putInPlace lower.effectiveEnv ∧
          keys lower.effectiveEnv <+: keys merged.effectiveEnv ∧
          ∀ name, find? name merged.effectiveEnv =
            (find? name higher.effectiveEnv).or (find? name lower.effectiveEnv) := by
  refine ⟨fun c => ⟨nodup_effectiveEnv c, keys_effectiveEnv c, fun name => ?_⟩,
    fun slot lower higher merged h => ?_⟩
  · rw [effectiveEnv_eq, find_assignAll, find?, Option.or_none]
  · have hlower := nodup_effectiveEnv lower
    rw [effectiveEnv_of_overlay h]
    refine ⟨assignAll_eq_putInPlace hlower _, ?_, fun name => ?_⟩
    · have hprefix := eraseDups_prefix (keys lower.effectiveEnv) (keys higher.effectiveEnv)
      rwa [eraseDups_of_nodup hlower, ← keys_assignAll hlower] at hprefix
    · rw [find_assignAll, lastAt_of_nodup (nodup_effectiveEnv higher)]

/-- A container that sets a variable twice, the second time without a value. -/
def pacedContainer : Container where
  name := "app"
  env := [{ name := "MODE", value := some "a" }, { name := "LEVEL", value := some "1" }, { name := "MODE" }]

/-- A layer for it that sets one of its variables, and a new one before that. -/
def tunedContainer : Container where
  name := "app"
  image := some "app:1"
  env := [{ name := "TIER", value := some "web" }, { name := "LEVEL" }, { name := "TIER", value := some "db" },
    { name := "LEVEL", value := some "2" }]

theorem effectiveEnv_layers_tuned :
    ∃ merged, (Container.overlay (Slot.root .defaults) pacedContainer tunedContainer).toExcept = .ok merged ∧
      pacedContainer.effectiveEnv = [("MODE", none), ("LEVEL", some "1")] ∧
      merged.effectiveEnv = [("MODE", none), ("LEVEL", some "2"), ("TIER", some "db")] ∧
      find? "LEVEL" merged.effectiveEnv = some (some "2") := by
  obtain ⟨-, hoverlay⟩ := effectiveEnv_layers
  obtain ⟨hmerged, -, hfind⟩ := hoverlay (Slot.root .defaults) pacedContainer tunedContainer _ rfl
  exact ⟨_, rfl, rfl, hmerged.trans rfl, (hfind "LEVEL").trans rfl⟩

end PodLayers.Proofs
