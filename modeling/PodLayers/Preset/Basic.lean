import PodLayers.Assembly.Issue
import PodLayers.Value.Document

/-!
# Presets and catalogs

A preset is a named contribution to the pod and to the document, with the presets it requires and the
flags that turn it on. A catalog holds at most one preset for a key and keeps them in the order in which
their keys were first registered.
-/

namespace PodLayers

/-- The workload to compose. -/
structure Identity where
  name : String
  version : String
  namespaceName : String := "default"
  image : Option String := none
deriving DecidableEq, Repr

def Identity.target (identity : Identity) : Target := ⟨identity.namespaceName, identity.name⟩

structure Flags where
  keystore : Bool := false
  leaderElection : Bool := false
  shardedMetrics : Bool := false
  output : Option String := none
deriving DecidableEq, Repr

/-- What a contribution may depend on. -/
structure Context where
  identity : Identity
  flags : Flags
  settings : Settings

/-- What one layer adds. -/
structure Fragment where
  pod : PodTemplate := {}
  document : Option Value := none

structure Preset where
  key : PresetKey
  requires : List PresetKey := []
  isActive : Flags → Bool := fun _ => false
  contribute : Context → Except Issue Fragment

structure Catalog where
  presets : List Preset
  distinct : (presets.map Preset.key).Nodup

namespace Catalog

def empty : Catalog := ⟨[], List.Pairwise.nil⟩

def keys (catalog : Catalog) : List PresetKey := catalog.presets.map Preset.key

def find? (catalog : Catalog) (key : PresetKey) : Option Preset :=
  catalog.presets.find? fun preset => preset.key == key

def contains (catalog : Catalog) (key : PresetKey) : Bool := (catalog.find? key).isSome

/-- Puts a preset in the place of the one with its key. -/
def replaceIn (preset : Preset) (presets : List Preset) : List Preset :=
  presets.map fun other => if other.key = preset.key then preset else other

theorem keys_replaceIn (preset : Preset) (presets : List Preset) :
    (replaceIn preset presets).map Preset.key = presets.map Preset.key := by
  simp only [replaceIn, List.map_map]
  apply List.map_congr_left
  intro other _
  simp only [Function.comp]
  split
  · rename_i h
    exact h.symm
  · rfl

/-- Adds a preset at the end, or in the place of the one with its key. -/
def register (catalog : Catalog) (preset : Preset) : Catalog :=
  if h : preset.key ∈ catalog.keys then
    ⟨replaceIn preset catalog.presets, by rw [keys_replaceIn]; exact catalog.distinct⟩
  else
    ⟨catalog.presets ++ [preset], by
      rw [List.map_append, List.nodup_append]
      refine ⟨catalog.distinct, by simp, ?_⟩
      intro a ha b hb e
      simp only [List.map_cons, List.map_nil, List.mem_singleton] at hb
      exact h (hb ▸ e ▸ ha)⟩

end Catalog

end PodLayers
