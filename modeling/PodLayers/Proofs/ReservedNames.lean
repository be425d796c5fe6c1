import PodLayers.Proofs.EntryOrder
import PodLayers.Proofs.LayerOrder

/-!
# Reserved names

The built-in presets use names of their own for an init container and for two volumes. Settings that pass
their check may give one of these names to something else, and then requests for the preset end in a
conflict. Nothing else keeps a request without user input from being composed.
-/

namespace PodLayers.Proofs
open Identifies Joins

/-! ## Stacks -/

section Stacks

variable {layers : List Layer}

/-- Some layer gives an identity to a place. -/
def Gives (layers : List Layer) (place : Place) (value : IdentityValue) : Prop :=
  ∃ layer ∈ layers, place.held? layer.fragment.pod = some value

/-- Layers that are not the user's can be stacked when no place is given two identities. -/
lemma exists_stackPods_iff
    (hlayers : ∀ layer ∈ layers, CoherentPod layer.fragment.pod ∧ layer.origin ≠ .user) :
    (∃ pod, stackPods layers = .ok pod) ↔
      ∀ place value value', Gives layers place value → Gives layers place value' → value = value' := by
  constructor
  · rintro ⟨pod, hpod⟩ place value value' ⟨lower, hlower, hheld⟩ ⟨higher, hhigher, hheld'⟩
    have hheldOf : HeldOf layers pod := heldOf_stackPods hlayers hpod
    have hvalue : place.held? pod = some value := hheldOf.given lower hlower place value hheld
    have hvalue' : place.held? pod = some value' := hheldOf.given higher hhigher place value' hheld'
    exact Option.some.inj (hvalue.symm.trans hvalue')
  · intro hunique
    cases hstack : stackPods layers with
    | ok pod => exact ⟨pod, rfl⟩
    | error clash =>
      obtain ⟨j, place, hfirst⟩ := firstConflict_of_error hlayers hstack
      obtain ⟨i, -, lower, higher, hi, hj, held, given, hheld, hgiven, hne⟩ := hfirst.conflict
      have hlower : Gives layers place held := ⟨lower, List.mem_of_getElem? hi, hheld⟩
      have hhigher : Gives layers place given := ⟨higher, List.mem_of_getElem? hj, hgiven⟩
      exact absurd (hunique place held given hlower hhigher) hne

lemma mem_keys_podOf {α : Type} [Named α] [Layered α] [Joins α] (list : PodTemplate → NamedList α)
    (hempty : list {} = .empty)
    (hlist : ∀ lower higher, list (join lower higher) = join (list lower) (list higher)) (key : String) :
    key ∈ (list (podOf layers)).keys ↔ ∃ layer ∈ layers, key ∈ names (list layer.fragment.pod) := by
  rw [list_podOf list hlist, hempty, keys_joinAll coherent_empty.1, List.mem_eraseDups, List.map_flatMap]
  exact List.mem_flatMap

end Stacks

/-! ## Outcomes -/

lemma exists_assembled_iff (platform : Platform) (request : Request) :
    (∃ assembled, platform.assemble request = .ok assembled) ↔
      requestIssues platform request = [] ∧
        (∃ pod, stackPods (requestLayers platform request) = .ok pod) ∧
        (podOf (requestLayers platform request)).nameClash? = none := by
  obtain ⟨hlayers, hissues⟩ := gathered_eq platform request
  simp only [assemble_eq_ok_iff, hlayers, hissues]
  constructor
  · rintro ⟨assembled, hnone, pod, hpod, hclash, -⟩
    obtain rfl := stackPods_eq_ok hpod
    exact ⟨hnone, ⟨_, hpod⟩, hclash⟩
  · rintro ⟨hnone, ⟨pod, hpod⟩, hclash⟩
    obtain rfl := stackPods_eq_ok hpod
    exact ⟨_, hnone, _, hpod, hclash, rfl⟩

/-! ## Built-in layers -/

section Layers

/-- The layers of a composition with some of the built-in presets. -/
def builtinLayers (ctx : Context) (keys : List PresetKey) : List Layer :=
  ⟨.defaults, Defaults.fragment ctx.settings ctx.identity ctx.flags⟩ :: layersOf Catalog.builtin ctx keys

variable (ctx : Context) (keys : List PresetKey)

lemma exists_builtinLayer_iff (P : PodTemplate → Prop) :
    (∃ layer ∈ builtinLayers ctx keys, P layer.fragment.pod) ↔
      P (Defaults.pod ctx.settings ctx.identity) ∨
        (Preset.keystoreKey ∈ keys ∧ P (Keystore.fragment ctx).pod) ∨
        (Preset.leaderElectionKey ∈ keys ∧ P LeaderElection.fragment.pod) ∨
        (Preset.metricsShardingKey ∈ keys ∧ P (MetricsSharding.fragment ctx).pod) ∨
        (Preset.clusterMonitoringKey ∈ keys ∧ P (ClusterMonitoring.fragment ctx).pod) := by
  have hpreset (preset : Preset) {fragment : Fragment} (hcontribute : preset.contribute ctx = .ok fragment) :
      (∃ given, preset.contribute ctx = .ok given ∧ P given.pod) ↔ P fragment.pod := by
    simp [hcontribute]
  rw [builtinLayers, List.exists_mem_cons_iff, exists_mem_layersOf, presets_builtin]
  simp only [List.exists_mem_cons_iff, List.not_mem_nil, false_and, exists_false, or_false]
  rw [hpreset Keystore.preset rfl, hpreset LeaderElection.preset rfl, hpreset MetricsSharding.preset rfl,
    hpreset ClusterMonitoring.preset rfl]
  rfl

/-- The identities of the built-in layers, by their places. -/
def BuiltinIdentity : Place → IdentityValue → Prop
  | .initContainer _, _ => False
  | .container name, value =>
    (name = ctx.settings.workload.containerName ∧ value = .image (Defaults.image ctx.settings ctx.identity)) ∨
      (Preset.metricsShardingKey ∈ keys ∧ name = ctx.settings.shardShim.containerName ∧
        value = .image ctx.settings.shardShim.image)
  | .volume name, value =>
    (name = ctx.settings.workload.configVolumeName ∧
        value = .sources { secret := some ⟨Defaults.configSecretName ctx.settings ctx.identity, none⟩ }) ∨
      (Preset.keystoreKey ∈ keys ∧ name = Keystore.volume ∧
        value = .sources { secret := some ⟨Keystore.secretName ctx, none⟩ }) ∨
      (Preset.clusterMonitoringKey ∈ keys ∧ name = ClusterMonitoring.volume ∧
        value = .sources (ClusterMonitoring.tokenVolume ctx.settings.monitoring).sources)

lemma heldUnder_singleton {α : Type} [Named α] [Layered α] [Joins α] [Identifies α] (a : α) (name : String)
    (value : IdentityValue) :
    heldUnder (.ofList [a]) name = some value ↔ name = Named.name a ∧ some value = identity? a := by
  have hlist : (NamedList.ofList [a]).get? name = if Named.name a = name then some a else none :=
    find_cons name (Named.name a) a []
  rw [heldUnder, hlist]
  by_cases hname : Named.name a = name
  · simp [hname, eq_comm]
  · simp [hname, Ne.symm hname]

lemma gives_builtinLayers (place : Place) (value : IdentityValue) :
    Gives (builtinLayers ctx keys) place value ↔ BuiltinIdentity ctx keys place value := by
  have hcontainer (c : Container) (name : String) : heldUnder (.ofList [c]) name = some value ↔
      name = c.name ∧ some value = c.image.map IdentityValue.image := heldUnder_singleton c name value
  have hvolume (volume : Volume) (name : String) : heldUnder (.ofList [volume]) name = some value ↔
      name = volume.name ∧
        some value = (Option.guard VolumeSources.isSet volume.sources).map IdentityValue.sources :=
    heldUnder_singleton volume name value
  have hempty {α : Type} [Named α] [Layered α] [Joins α] [Identifies α] (name : String) :
      heldUnder (NamedList.empty : NamedList α) name = none := rfl
  rw [Gives, exists_builtinLayer_iff ctx keys fun pod => place.held? pod = some value]
  cases place with
  | initContainer name =>
    simp [Place.held?, Defaults.pod, Keystore.fragment, Keystore.container, LeaderElection.fragment,
      MetricsSharding.fragment, ClusterMonitoring.fragment, hempty, hcontainer, BuiltinIdentity]
  | container name =>
    simp [Place.held?, Defaults.pod, Defaults.primaryContainer, Keystore.fragment, LeaderElection.fragment,
      MetricsSharding.fragment, MetricsSharding.container, ClusterMonitoring.fragment,
      ClusterMonitoring.container, hempty, hcontainer, BuiltinIdentity]
  | volume name =>
    simp [Place.held?, Defaults.pod, Keystore.fragment, LeaderElection.fragment, MetricsSharding.fragment,
      ClusterMonitoring.fragment, ClusterMonitoring.tokenVolume, Volume.ofSecret, VolumeSources.isSet,
      Option.guard, hempty, hvolume, BuiltinIdentity]

lemma mem_initContainers_builtinLayers (name : String) :
    name ∈ (podOf (builtinLayers ctx keys)).spec.initContainers.keys ↔
      Preset.keystoreKey ∈ keys ∧ name = Keystore.initContainer := by
  rw [mem_keys_podOf (fun pod => pod.spec.initContainers) rfl fun _ _ => rfl,
    exists_builtinLayer_iff ctx keys fun pod => name ∈ names pod.spec.initContainers]
  have hempty : names (NamedList.empty : NamedList Container) = [] := rfl
  have hkeystore : names (.ofList [Keystore.container]) = [Keystore.initContainer] := rfl
  simp [Defaults.pod, Keystore.fragment, LeaderElection.fragment, MetricsSharding.fragment,
    ClusterMonitoring.fragment, hempty, hkeystore]

lemma mem_containers_builtinLayers (name : String) :
    name ∈ (podOf (builtinLayers ctx keys)).spec.containers.keys ↔
      name = ctx.settings.workload.containerName ∨
        (Preset.metricsShardingKey ∈ keys ∧ name = ctx.settings.shardShim.containerName) := by
  rw [mem_keys_podOf (fun pod => pod.spec.containers) rfl fun _ _ => rfl,
    exists_builtinLayer_iff ctx keys fun pod => name ∈ names pod.spec.containers]
  have hempty : names (NamedList.empty : NamedList Container) = [] := rfl
  have hsingleton (c : Container) : names (.ofList [c]) = [c.name] := rfl
  simp only [Defaults.pod, Defaults.primaryContainer, Keystore.fragment, LeaderElection.fragment,
    MetricsSharding.fragment, MetricsSharding.container, ClusterMonitoring.fragment,
    ClusterMonitoring.container, hempty, hsingleton, List.mem_singleton, List.not_mem_nil, and_false,
    false_or]
  -- monitoring adds to the primary container and brings in no name of its own
  tauto

end Layers

/-! ## Names apart -/

/-- What the built-in presets of some keys need of the names in the settings. -/
structure NamesApart (settings : Settings) (keys : List PresetKey) : Prop where
  primary : Preset.keystoreKey ∈ keys → settings.workload.containerName ≠ Keystore.initContainer
  sidecar : Preset.keystoreKey ∈ keys → Preset.metricsShardingKey ∈ keys →
    settings.shardShim.containerName ≠ Keystore.initContainer
  secureSettings : Preset.keystoreKey ∈ keys → settings.workload.configVolumeName ≠ Keystore.volume
  token : Preset.clusterMonitoringKey ∈ keys → settings.workload.configVolumeName ≠ ClusterMonitoring.volume

section NamesApart

variable (ctx : Context) (keys : List PresetKey)

lemma shim_ne_of_valid {settings : Settings} (hvalid : settings.problem? = none) :
    settings.shardShim.containerName ≠ settings.workload.containerName := by
  intro hname
  rw [Settings.problem?] at hvalid
  split at hvalid
  · cases hvalid
  · rw [if_pos hname] at hvalid
    cases hvalid

lemma configSecretName_ne :
    Defaults.configSecretName ctx.settings ctx.identity ≠ Keystore.secretName ctx := by
  rw [Defaults.configSecretName, Keystore.secretName, Ne, String.append_right_inj]
  decide

lemma nameClash_builtinLayers_iff :
    (podOf (builtinLayers ctx keys)).nameClash? = none ↔
      (Preset.keystoreKey ∈ keys → ctx.settings.workload.containerName ≠ Keystore.initContainer) ∧
        (Preset.keystoreKey ∈ keys → Preset.metricsShardingKey ∈ keys →
          ctx.settings.shardShim.containerName ≠ Keystore.initContainer) := by
  simp only [nameClash_eq_none_iff, mem_initContainers_builtinLayers, mem_containers_builtinLayers]
  constructor
  · intro hapart
    exact ⟨fun hkeystore hname => hapart Keystore.initContainer ⟨⟨hkeystore, rfl⟩, .inl hname.symm⟩,
      fun hkeystore hsharding hname =>
        hapart Keystore.initContainer ⟨⟨hkeystore, rfl⟩, .inr ⟨hsharding, hname.symm⟩⟩⟩
  · rintro ⟨hprimary, hsidecar⟩ name ⟨⟨hkeystore, rfl⟩, hname | ⟨hsharding, hname⟩⟩
    · exact hprimary hkeystore hname.symm
    · exact hsidecar hkeystore hsharding hname.symm

/-- Only the configuration volume can be given two identities. -/
lemma unique_builtinIdentity_iff
    (hshim : ctx.settings.shardShim.containerName ≠ ctx.settings.workload.containerName) :
    (∀ place value value', BuiltinIdentity ctx keys place value → BuiltinIdentity ctx keys place value' →
        value = value') ↔
      (Preset.keystoreKey ∈ keys → ctx.settings.workload.configVolumeName ≠ Keystore.volume) ∧
        (Preset.clusterMonitoringKey ∈ keys →
          ctx.settings.workload.configVolumeName ≠ ClusterMonitoring.volume) := by
  have hvolumes : Keystore.volume ≠ ClusterMonitoring.volume := by decide
  constructor
  · intro hunique
    have hconfig {name : String} (hname : ctx.settings.workload.configVolumeName = name) :
        BuiltinIdentity ctx keys (.volume name)
          (.sources { secret := some ⟨Defaults.configSecretName ctx.settings ctx.identity, none⟩ }) :=
      .inl ⟨hname.symm, rfl⟩
    refine ⟨fun hkeystore hname => ?_, fun hmonitoring hname => ?_⟩
    · have hsame := hunique _ _ _ (hconfig hname) (.inr (.inl ⟨hkeystore, rfl, rfl⟩))
      simp [configSecretName_ne] at hsame
    · have hsame := hunique _ _ _ (hconfig hname) (.inr (.inr ⟨hmonitoring, rfl, rfl⟩))
      simp [ClusterMonitoring.tokenVolume] at hsame
  · rintro ⟨hsecure, htoken⟩ place value value' h h'
    cases place with
    | initContainer name => exact h.elim
    | container name =>
      rcases h with ⟨hname, rfl⟩ | ⟨-, hname, rfl⟩ <;> rcases h' with ⟨hname', rfl⟩ | ⟨-, hname', rfl⟩
      · rfl
      · exact absurd (hname'.symm.trans hname) hshim
      · exact absurd (hname.symm.trans hname') hshim
      · rfl
    | volume name =>
      rcases h with ⟨rfl, rfl⟩ | ⟨hkeystore, rfl, rfl⟩ | ⟨hmonitoring, rfl, rfl⟩ <;>
        rcases h' with ⟨hname, rfl⟩ | ⟨hkeystore', hname, rfl⟩ | ⟨hmonitoring', hname, rfl⟩
      · rfl
      · exact absurd hname (hsecure hkeystore')
      · exact absurd hname (htoken hmonitoring')
      · exact absurd hname.symm (hsecure hkeystore)
      · rfl
      · exact absurd hname hvolumes
      · exact absurd hname.symm (htoken hmonitoring)
      · exact absurd hname.symm hvolumes
      · rfl

end NamesApart

/-! ## Requests for built-in presets -/

/-- All selected keys are those of built-in presets. -/
def SelectsBuiltin (request : Request) : Prop := ∀ key ∈ request.selected, key ∈ Catalog.builtin.keys

section Builtin

variable (settings : Settings) {request : Request}

lemma contributes_builtin {key : PresetKey} (hkey : key ∈ Catalog.builtin.keys) (ctx : Context) :
    ∃ fragment, contribution Catalog.builtin ctx key = .ok fragment := by
  obtain ⟨preset, hpreset, rfl⟩ := List.mem_map.1 hkey
  rw [contribution_of_mem hpreset]
  rw [presets_builtin] at hpreset
  simp only [List.mem_cons, List.not_mem_nil, or_false] at hpreset
  rcases hpreset with rfl | rfl | rfl | rfl <;> exact ⟨_, rfl⟩

lemma requires_builtin : ∀ preset ∈ Catalog.builtin.presets, ∀ key ∈ preset.requires,
    key ∈ Catalog.builtin.keys := by decide

lemma requestIssues_builtin (hselected : SelectsBuiltin request) :
    requestIssues { settings } (withoutUser request) = [] := by
  have hknown : ({ settings } : Platform).unknownSelections (withoutUser request) = [] := by
    rw [Platform.unknownSelections, List.filter_eq_nil_iff]
    intro key hkey
    obtain ⟨preset, hpreset, rfl⟩ := List.mem_map.1 (hselected key hkey)
    have hfind : Catalog.builtin.find? preset.key = some preset := find_preset_iff.2 ⟨hpreset, rfl⟩
    simp [Catalog.contains, hfind]
  have hasked : ∀ key ∈ ({ settings } : Platform).asked (withoutUser request),
      issueOf? Catalog.builtin (({ settings } : Platform).context (withoutUser request)) key = none := by
    intro key hkey
    obtain ⟨preset, hpreset, hkey⟩ := (mem_asked key).1 hkey
    have hcatalog : preset ∈ Catalog.builtin.presets := ((mem_chosen preset).1 hpreset).1
    have hbuiltin : key ∈ Catalog.builtin.keys := by
      rcases hkey with rfl | hkey
      · exact List.mem_map_of_mem hcatalog
      · exact requires_builtin preset hcatalog key hkey
    obtain ⟨fragment, hfragment⟩ := contributes_builtin hbuiltin _
    rw [issueOf?, hfragment]
  rw [requestIssues, hknown, List.filterMap_eq_nil_iff.2 hasked]
  rfl

lemma requestLayers_builtin (request : Request) :
    requestLayers { settings } (withoutUser request) =
      builtinLayers (({ settings } : Platform).context request) (({ settings } : Platform).asked request) :=
  List.append_nil _

lemma coherent_requestLayers_builtin (hselected : SelectsBuiltin request) :
    ∀ layer ∈ requestLayers { settings } (withoutUser request),
      CoherentPod layer.fragment.pod ∧ layer.origin ≠ .user := by
  have huser : CoherentRequest (withoutUser request) := fun _ h => by cases h
  obtain ⟨hlayers, hissues⟩ := gathered_eq { settings } (withoutUser request)
  have hcoherent := coherent_gatheredLayers coherentCatalog_builtin huser
    (hissues.trans (requestIssues_builtin settings hselected))
  intro layer hlayer
  refine ⟨hcoherent layer (hlayers ▸ hlayer), ?_⟩
  rw [requestLayers_builtin, builtinLayers, List.mem_cons, mem_layersOf] at hlayer
  rcases hlayer with rfl | ⟨preset, -, -, fragment, -, rfl⟩ <;> simp

/-- With accepted settings and without user input, the names decide. -/
lemma exists_assembled_builtin_iff {settings : Settings} (hvalid : settings.problem? = none)
    (hselected : SelectsBuiltin request) :
    (∃ assembled, ({ settings } : Platform).assemble (withoutUser request) = .ok assembled) ↔
      NamesApart settings (({ settings } : Platform).asked request) := by
  rw [exists_assembled_iff, exists_stackPods_iff (coherent_requestLayers_builtin settings hselected),
    requestLayers_builtin, nameClash_builtinLayers_iff]
  simp only [gives_builtinLayers]
  rw [unique_builtinIdentity_iff (({ settings } : Platform).context request) _ (shim_ne_of_valid hvalid)]
  constructor
  · rintro ⟨-, ⟨hsecure, htoken⟩, hprimary, hsidecar⟩
    exact ⟨hprimary, hsidecar, hsecure, htoken⟩
  · rintro ⟨hprimary, hsidecar, hsecure, htoken⟩
    exact ⟨requestIssues_builtin settings hselected, ⟨hsecure, htoken⟩, hprimary, hsidecar⟩

lemma conflict_of_assemble_builtin (hselected : SelectsBuiltin request) {issue : Issue}
    (h : ({ settings } : Platform).assemble (withoutUser request) = .error issue) :
    ∃ clash, issue = .conflict clash := by
  rw [assemble_eq, requestOutcome, requestIssues_builtin settings hselected] at h
  exact conflict_of_assembleLayers h

end Builtin

/-- A request that asks for all presets. -/
def everyPreset : Request where
  identity := { name := "kibana-sample", version := "8.0.0" }
  flags := { keystore := true, leaderElection := true, shardedMetrics := true }

/-- With settings that pass their check, a request without user input for built-in presets is composed when
its presets have their names for themselves, and ends in a conflict otherwise. All such requests are composed
when no name of the settings is one that a built-in preset uses. -/
theorem validated_assembles_iff {settings : Settings} (hvalid : settings.problem? = none) :
    (∀ request, SelectsBuiltin request →
      ((∃ assembled, ({ settings } : Platform).assemble (withoutUser request) = .ok assembled) ↔
        NamesApart settings (({ settings } : Platform).asked request)) ∧
      ∀ issue, ({ settings } : Platform).assemble (withoutUser request) = .error issue →
        ∃ clash, issue = .conflict clash) ∧
    ((∀ request, SelectsBuiltin request →
        ∃ assembled, ({ settings } : Platform).assemble (withoutUser request) = .ok assembled) ↔
      settings.workload.containerName ≠ Keystore.initContainer ∧
        settings.shardShim.containerName ≠ Keystore.initContainer ∧
        settings.workload.configVolumeName ≠ Keystore.volume ∧
        settings.workload.configVolumeName ≠ ClusterMonitoring.volume) := by
  refine ⟨fun request hselected => ⟨exists_assembled_builtin_iff hvalid hselected,
    fun issue => conflict_of_assemble_builtin settings hselected⟩, ?_, ?_⟩
  · intro hall
    have hselected : SelectsBuiltin everyPreset := fun _ h => absurd h List.not_mem_nil
    have hasked : ({ settings } : Platform).asked everyPreset =
        [Preset.keystoreKey, Preset.clusterMonitoringKey, Preset.leaderElectionKey,
          Preset.clusterMonitoringKey, Preset.metricsShardingKey] := rfl
    have hapart := (exists_assembled_builtin_iff hvalid hselected).1 (hall everyPreset hselected)
    rw [hasked] at hapart
    exact ⟨hapart.primary (by decide), hapart.sidecar (by decide) (by decide),
      hapart.secureSettings (by decide), hapart.token (by decide)⟩
  · rintro ⟨hprimary, hsidecar, hsecure, htoken⟩ request hselected
    exact (exists_assembled_builtin_iff hvalid hselected).2
      ⟨fun _ => hprimary, fun _ _ => hsidecar, fun _ => hsecure, fun _ => htoken⟩

theorem validated_assembles_iff_defaults :
    ({} : Settings).problem? = none ∧
      (∀ request, SelectsBuiltin request →
        ∃ assembled, ({} : Platform).assemble (withoutUser request) = .ok assembled) ∧
      SelectsBuiltin sharedRequest ∧
      NamesApart {} (({} : Platform).asked sharedRequest) := by
  have hvalid : ({} : Settings).problem? = none := rfl
  obtain ⟨hrequest, hall⟩ := validated_assembles_iff hvalid
  have hevery := hall.2 ⟨by decide, by decide, by decide, by decide⟩
  have hselected : SelectsBuiltin sharedRequest := by
    unfold SelectsBuiltin
    decide
  exact ⟨hvalid, hevery, hselected, (hrequest sharedRequest hselected).1.1 (hevery sharedRequest hselected)⟩

/-- Settings that pass the check, with the name of the keystore's init container for the primary one. -/
def keystoreNamed : Settings where
  workload := { containerName := Keystore.initContainer }

/-- Settings that pass the check, with the name of the keystore's volume for the configuration. -/
def secureSettingsNamed : Settings where
  workload := { configVolumeName := Keystore.volume }

def reservingRequest : Request where
  identity := { name := "kibana-name", version := "7.4.0" }
  flags := { keystore := true }

set_option maxRecDepth 4000 in
theorem reserved_names_conflict :
    SelectsBuiltin reservingRequest ∧ keystoreNamed.problem? = none ∧ secureSettingsNamed.problem? = none ∧
      Platform.assemble ⟨keystoreNamed, .builtin⟩ (withoutUser reservingRequest) =
        .error (.conflict ⟨"spec.initContainers[elastic-internal-init-keystore].name", "application container",
          "init container"⟩) ∧
      Platform.assemble ⟨secureSettingsNamed, .builtin⟩ (withoutUser reservingRequest) =
        .error (.conflict ⟨"spec.volumes[elastic-internal-secure-settings].source",
          "secret/kibana-name-kb-config", "secret/kibana-name-kb-secure-settings"⟩) :=
  ⟨fun _ h => absurd h List.not_mem_nil, rfl, rfl, rfl, rfl⟩

end PodLayers.Proofs
