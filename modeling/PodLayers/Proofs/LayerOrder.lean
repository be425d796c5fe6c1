import PodLayers.Proofs.AskedPresets

/-!
# The order of layers

A composition that succeeds has the layers of the keys asked for, each once and where it was first asked
for, between the defaults and the layer of the user.
-/

namespace PodLayers.Proofs

/-! ## Layers of a success -/

section Success

variable {platform : Platform} {request : Request} {assembled : Assembled}

lemma contribution_of_asked (h : platform.assemble request = .ok assembled) {key : PresetKey}
    (hkey : key ∈ platform.asked request) :
    ∃ fragment, contribution platform.catalog (platform.context request) key = .ok fragment := by
  have hissues := (assemble_ok_layers h).1
  rw [requestIssues, List.append_eq_nil_iff, List.append_eq_nil_iff, List.filterMap_eq_nil_iff] at hissues
  have hnone := hissues.1.2 key hkey
  rw [issueOf?] at hnone
  cases hcontribution : contribution platform.catalog (platform.context request) key with
  | error issue => simp [hcontribution] at hnone
  | ok fragment => exact ⟨fragment, rfl⟩

lemma origins_layersOf {catalog : Catalog} {ctx : Context} {keys : List PresetKey}
    (h : ∀ key ∈ keys, ∃ fragment, contribution catalog ctx key = .ok fragment) :
    (layersOf catalog ctx keys).map Layer.origin = keys.eraseDups.map Origin.addon := by
  rw [layersOf, List.map_filterMap, ← List.filterMap_eq_map]
  refine List.filterMap_congr fun key hkey => ?_
  obtain ⟨fragment, hcontribution⟩ := h key (List.mem_eraseDups.1 hkey)
  rw [layerOf?, hcontribution]
  rfl

lemma origins_writtenLayers (h : overrideIssue? request = none) :
    (writtenLayers request).map Layer.origin =
      if request.userOverride.isSome || request.vars.isSome then [.user] else [] := by
  unfold overrideIssue? at h
  unfold writtenLayers userFragment
  cases hoverride : request.userOverride with
  | none => cases request.vars <;> rfl
  | some userOverride =>
    simp only [hoverride] at h
    cases hpod : userOverride.pod with
    | error issue => simp [hpod] at h
    | ok pod => simp [hpod, Except.map, userLayers]

lemma origins_eq (h : platform.assemble request = .ok assembled) :
    assembled.trail.origins =
      .defaults :: (platform.asked request).eraseDups.map Origin.addon ++
        if request.userOverride.isSome || request.vars.isSome then [.user] else [] := by
  obtain ⟨hissues, horigins⟩ := assemble_ok_layers h
  have hwritten : overrideIssue? request = none := by
    rw [requestIssues, List.append_eq_nil_iff] at hissues
    simpa using hissues.2
  rw [horigins, requestLayers, List.map_append, List.map_cons, origins_writtenLayers hwritten,
    origins_layersOf fun key hkey => contribution_of_asked h hkey]
  rfl

/-- The presets applied are the keys asked for, in the order in which they are first asked for. -/
lemma appliedPresets_eq (h : platform.assemble request = .ok assembled) :
    assembled.trail.appliedPresets = (platform.asked request).eraseDups := by
  have haddons (keys : List PresetKey) : (keys.map Origin.addon).filterMap Trail.presetOf? = keys := by
    rw [List.filterMap_map]
    exact List.filterMap_some
  rw [Trail.appliedPresets, origins_eq h, List.cons_append, List.filterMap_cons_none rfl,
    List.filterMap_append, haddons]
  split <;> simp [Trail.presetOf?]

lemma mem_chosen (preset : Preset) :
    preset ∈ platform.chosen request ↔
      preset ∈ platform.catalog.presets ∧
        (preset.isActive request.flags = true ∨ preset.key ∈ request.selected) := by
  simp [Platform.chosen]

lemma mem_asked (key : PresetKey) :
    key ∈ platform.asked request ↔
      ∃ preset ∈ platform.chosen request, key = preset.key ∨ key ∈ preset.requires := by
  simp [Platform.asked, or_comm]

end Success

/-- The layers of a composition are the defaults, one for each key asked for in the order in which these
are first asked for, and that of the user where there is an override or a document. -/
theorem assemble_origins {platform : Platform} {request : Request} {assembled : Assembled}
    (h : platform.assemble request = .ok assembled) :
    assembled.trail.origins =
        .defaults ::
          (((platform.catalog.presets.filter fun preset =>
              preset.isActive request.flags || request.selected.contains preset.key).flatMap
            fun preset => preset.requires ++ [preset.key]).eraseDups.map Origin.addon) ++
          (if request.userOverride.isSome || request.vars.isSome then [.user] else []) ∧
      assembled.trail.appliedPresets.Nodup ∧
      (∀ preset ∈ platform.catalog.presets,
        preset.isActive request.flags = true ∨ preset.key ∈ request.selected →
          preset.key ∈ assembled.trail.appliedPresets) ∧
      ∀ key ∈ assembled.trail.appliedPresets, ∃ preset ∈ platform.catalog.presets,
        (preset.isActive request.flags = true ∨ preset.key ∈ request.selected) ∧
          (key = preset.key ∨ key ∈ preset.requires) := by
  refine ⟨origins_eq h, ?_, ?_, ?_⟩
  · rw [appliedPresets_eq h]
    exact nodup_eraseDups _
  · intro preset hpreset hchosen
    rw [appliedPresets_eq h, List.mem_eraseDups, mem_asked]
    exact ⟨preset, (mem_chosen preset).2 ⟨hpreset, hchosen⟩, .inl rfl⟩
  · intro key hkey
    rw [appliedPresets_eq h, List.mem_eraseDups, mem_asked] at hkey
    obtain ⟨preset, hpreset, hasks⟩ := hkey
    obtain ⟨hmem, hchosen⟩ := (mem_chosen preset).1 hpreset
    exact ⟨preset, hmem, hchosen, hasks⟩

/-- Two presets that share a requirement, which is selected too, and a document of the user. -/
def sharedRequest : Request where
  identity := { name := "kibana-sample", version := "8.0.0" }
  flags := { leaderElection := true, shardedMetrics := true }
  selected := [Preset.clusterMonitoringKey, Preset.leaderElectionKey]
  vars := some ⟨.mapping [("period", .text "30s")]⟩

set_option maxRecDepth 4000 in
theorem assemble_origins_shared :
    ∃ assembled, ({} : Platform).assemble sharedRequest = .ok assembled ∧
      assembled.trail.origins =
        [.defaults, .addon "cluster-monitoring", .addon "leader-election", .addon "metrics-sharding", .user] ∧
      assembled.trail.appliedPresets.Nodup := by
  obtain ⟨assembled, h⟩ : ∃ assembled, ({} : Platform).assemble sharedRequest = .ok assembled := ⟨_, rfl⟩
  obtain ⟨horigins, hnodup, -, -⟩ := assemble_origins h
  exact ⟨assembled, h, horigins.trans rfl, hnodup⟩

end PodLayers.Proofs
