import Mathlib.Data.List.Nodup
import PodLayers.Assembly.Platform
import PodLayers.Proofs.CoherentLists

/-!
# Gathering layers

What one request for a preset can do to the state of gathering, and what follows for the layers of a
composition: the default layer first, then layers of presets, then that of the user. A composition succeeds
exactly when gathering met no issue, the stack does not clash and its names are apart.
-/

namespace PodLayers.Proofs

/-! ## The ledger -/

section Ledger

variable {α : Type} {m : Type → Type} [Monad m] {ledger : Ledger} {target : Target} {key : PresetKey}

lemma claimBy_unknown (contribute : m (Except Issue α)) (hknown : ledger.isKnown key = false) :
    ledger.claimBy target key contribute = pure (.unknown, ledger) := by
  rw [Ledger.claimBy, hknown]
  rfl

lemma claimBy_repeated (contribute : m (Except Issue α)) (hknown : ledger.isKnown key = true)
    (happlied : ledger.isApplied target key = true) :
    ledger.claimBy target key contribute = pure (.repeated, ledger) := by
  rw [Ledger.claimBy, hknown, happlied]
  rfl

lemma claim_unknown (attempt : Except Issue α) (hknown : ledger.isKnown key = false) :
    ledger.claim target key attempt = (.unknown, ledger) := by
  rw [Ledger.claim, claimBy_unknown _ hknown]
  rfl

lemma claim_repeated (attempt : Except Issue α) (hknown : ledger.isKnown key = true)
    (happlied : ledger.isApplied target key = true) :
    ledger.claim target key attempt = (.repeated, ledger) := by
  rw [Ledger.claim, claimBy_repeated _ hknown happlied]
  rfl

lemma claim_due (attempt : Except Issue α) (hknown : ledger.isKnown key = true)
    (happlied : ledger.isApplied target key = false) :
    ledger.claim target key attempt =
      match attempt with
      | .error issue => (.failed issue, ledger)
      | .ok a => (.granted a, ledger.record target key) := by
  rw [Ledger.claim, Ledger.claimBy, hknown, happlied]
  cases attempt <;> rfl

/-- A contribution that is due is run once, and what comes of it is claimed. -/
lemma claimBy_due [LawfulMonad m] (contribute : m (Except Issue α)) (hknown : ledger.isKnown key = true)
    (happlied : ledger.isApplied target key = false) :
    ledger.claimBy target key contribute = ledger.claim target key <$> contribute := by
  rw [Ledger.claimBy, hknown, happlied, map_eq_pure_bind]
  refine bind_congr fun attempt => ?_
  rw [claim_due attempt hknown happlied]
  cases attempt <;> rfl

end Ledger

/-! ## Presets -/

lemma find_preset_iff {catalog : Catalog} {key : PresetKey} {preset : Preset} :
    catalog.find? key = some preset ↔ preset ∈ catalog.presets ∧ preset.key = key := by
  constructor
  · intro h
    exact ⟨List.mem_of_find?_eq_some h, by simpa using List.find?_some h⟩
  · rintro ⟨hpreset, rfl⟩
    cases hfind : catalog.find? preset.key with
    | none =>
      rw [Catalog.find?, List.find?_eq_none] at hfind
      exact absurd (beq_self_eq_true preset.key) (hfind preset hpreset)
    | some other =>
      have hother : other ∈ catalog.presets := List.mem_of_find?_eq_some hfind
      have hkey : other.key = preset.key := by simpa using List.find?_some hfind
      rw [List.inj_on_of_nodup_map catalog.distinct hother hpreset hkey]

/-- Everything that asking for a preset can do. -/
lemma request_cases (catalog : Catalog) (ctx : Context) (state : Gathering) (key : PresetKey) :
    ((catalog.find? key = none ∨ state.ledger.isKnown key = false) ∧
      state.request catalog ctx key = state.addIssue (.unknownPreset key)) ∨
    ∃ preset, catalog.find? key = some preset ∧ state.ledger.isKnown key = true ∧
      ((state.ledger.isApplied ctx.identity.target key = true ∧ state.request catalog ctx key = state) ∨
        (state.ledger.isApplied ctx.identity.target key = false ∧
          ((∃ issue, preset.contribute ctx = .error issue ∧
              state.request catalog ctx key = state.addIssue issue) ∨
            ∃ fragment, preset.contribute ctx = .ok fragment ∧
              state.request catalog ctx key =
                { ledger := state.ledger.record ctx.identity.target key
                  layers := state.layers ++ [⟨.addon key, fragment⟩]
                  issues := state.issues }))) := by
  unfold Gathering.request
  cases hfind : catalog.find? key with
  | none => exact .inl ⟨.inl rfl, rfl⟩
  | some preset =>
    cases hknown : state.ledger.isKnown key with
    | false => exact .inl ⟨.inr rfl, by simp only [claim_unknown _ hknown]⟩
    | true =>
      refine .inr ⟨preset, rfl, rfl, ?_⟩
      cases happlied : state.ledger.isApplied ctx.identity.target key with
      | true => exact .inl ⟨rfl, by simp only [claim_repeated _ hknown happlied]⟩
      | false =>
        refine .inr ⟨rfl, ?_⟩
        simp only [claim_due _ hknown happlied]
        cases hcontribute : preset.contribute ctx with
        | error issue => exact .inl ⟨issue, rfl, rfl⟩
        | ok fragment => exact .inr ⟨fragment, rfl, rfl⟩

/-- The layer of a preset of the catalog. -/
def IsPresetLayer (catalog : Catalog) (ctx : Context) (layer : Layer) : Prop :=
  ∃ preset ∈ catalog.presets, ∃ fragment, preset.contribute ctx = .ok fragment ∧
    layer = ⟨.addon preset.key, fragment⟩

lemma request_layers (catalog : Catalog) (ctx : Context) (state : Gathering) (key : PresetKey) :
    ∃ added, (state.request catalog ctx key).layers = state.layers ++ added ∧
      ∀ layer ∈ added, IsPresetLayer catalog ctx layer := by
  rcases request_cases catalog ctx state key with ⟨-, h⟩ | ⟨preset, hfind, -, h⟩
  · exact ⟨[], by simp [h, Gathering.addIssue], nofun⟩
  · rcases h with ⟨-, h⟩ | ⟨-, ⟨issue, -, h⟩ | ⟨fragment, hcontribute, h⟩⟩
    · exact ⟨[], by simp [h], nofun⟩
    · exact ⟨[], by simp [h, Gathering.addIssue], nofun⟩
    · refine ⟨[⟨.addon key, fragment⟩], by rw [h], ?_⟩
      intro layer hlayer
      rw [List.mem_singleton] at hlayer
      obtain ⟨hpreset, rfl⟩ := find_preset_iff.1 hfind
      exact ⟨preset, hpreset, fragment, hcontribute, hlayer⟩

lemma foldl_request_layers (catalog : Catalog) (ctx : Context) (keys : List PresetKey)
    (state : Gathering) :
    ∃ added, (keys.foldl (Gathering.request catalog ctx) state).layers = state.layers ++ added ∧
      ∀ layer ∈ added, IsPresetLayer catalog ctx layer := by
  induction keys generalizing state with
  | nil => exact ⟨[], by simp, nofun⟩
  | cons key rest ih =>
    obtain ⟨first, hfirst, hpreset⟩ := request_layers catalog ctx state key
    obtain ⟨others, hothers, hrest⟩ := ih (state.request catalog ctx key)
    refine ⟨first ++ others, by rw [List.foldl_cons, hothers, hfirst, List.append_assoc], ?_⟩
    intro layer hlayer
    exact (List.mem_append.1 hlayer).elim (hpreset layer) (hrest layer)

/-! ## The layers of a request -/

/-- The state of gathering when all presets have been asked for. -/
def presetsGathered (platform : Platform) (request : Request) (ledger : Ledger) : Gathering :=
  (platform.asked request).foldl (Gathering.request platform.catalog (platform.context request))
    (platform.start request ledger)

/-- The layers that a composition of its own gathers, lowest first. -/
def gatheredLayers (platform : Platform) (request : Request) : List Layer :=
  (platform.gather request platform.catalog.ledger).1.layers

def gatheredIssues (platform : Platform) (request : Request) : List Issue :=
  (platform.gather request platform.catalog.ledger).1.issues

/-- The default layer of a request. -/
def defaultLayer (platform : Platform) (request : Request) : Layer :=
  ⟨.defaults, Defaults.fragment platform.settings request.identity request.flags⟩

lemma presetsGathered_layers (platform : Platform) (request : Request) (ledger : Ledger) :
    ∃ addons, (presetsGathered platform request ledger).layers = defaultLayer platform request :: addons ∧
      ∀ layer ∈ addons, IsPresetLayer platform.catalog (platform.context request) layer :=
  foldl_request_layers platform.catalog (platform.context request) (platform.asked request)
    (platform.start request ledger)

/-- The layer of the user, if there is one. -/
def userLayers (user : Option Fragment) : List Layer := (user.map fun fragment => ⟨.user, fragment⟩).toList

lemma gather_of_userFragment (platform : Platform) {request : Request} {user : Option Fragment}
    (h : userFragment request.userOverride request.vars = .ok user) :
    gatheredLayers platform request =
        (presetsGathered platform request platform.catalog.ledger).layers ++
          userLayers user ∧
      gatheredIssues platform request =
        (presetsGathered platform request platform.catalog.ledger).issues := by
  simp only [gatheredLayers, gatheredIssues, Platform.gather, h]
  cases user <;> simp [presetsGathered, Gathering.addLayer, userLayers]

lemma gather_of_malformed {platform : Platform} {request : Request} {issue : Issue}
    (h : userFragment request.userOverride request.vars = .error issue) :
    gatheredIssues platform request ≠ [] := by
  simp [gatheredIssues, Platform.gather, h, Gathering.addIssue]

/-- The default layer, layers of presets, and the layer of the user where there is one. -/
lemma gatheredLayers_eq {platform : Platform} {request : Request}
    (hissues : gatheredIssues platform request = []) :
    ∃ addons user, gatheredLayers platform request =
        defaultLayer platform request :: addons ++ userLayers user ∧
      (∀ layer ∈ addons, IsPresetLayer platform.catalog (platform.context request) layer) ∧
      userFragment request.userOverride request.vars = .ok user := by
  cases hfragment : userFragment request.userOverride request.vars with
  | error issue => exact absurd hissues (gather_of_malformed hfragment)
  | ok user =>
    obtain ⟨addons, hlayers, haddons⟩ := presetsGathered_layers platform request platform.catalog.ledger
    exact ⟨addons, user, by rw [(gather_of_userFragment platform hfragment).1, hlayers], haddons, rfl⟩

/-! ## Coherent layers -/

/-- Every preset contributes coherent templates. -/
def CoherentCatalog (catalog : Catalog) : Prop :=
  ∀ preset ∈ catalog.presets, ∀ ctx fragment, preset.contribute ctx = .ok fragment →
    CoherentPod fragment.pod

/-- A template that the user gave as such is coherent. -/
def CoherentRequest (request : Request) : Prop :=
  ∀ pod, request.userOverride = some (.typed pod) → CoherentPod pod

lemma coherentPod_defaults (settings : Settings) (identity : Identity) :
    CoherentPod (Defaults.pod settings identity) :=
  coherentPod_ofList [] [Defaults.primaryContainer settings identity] [_] rfl rfl rfl
    (List.forall_mem_singleton.2 (coherent_ofList _))

lemma presets_builtin : Catalog.builtin.presets =
    [Keystore.preset, LeaderElection.preset, MetricsSharding.preset, ClusterMonitoring.preset] := rfl

lemma coherentCatalog_builtin : CoherentCatalog Catalog.builtin := by
  intro preset hpreset ctx fragment h
  rw [presets_builtin] at hpreset
  simp only [List.mem_cons, List.not_mem_nil, or_false] at hpreset
  rcases hpreset with rfl | rfl | rfl | rfl
  · obtain rfl : Keystore.fragment ctx = fragment := Except.ok.inj h
    exact coherentPod_ofList [Keystore.container] [] [_] rfl rfl rfl
      (List.forall_mem_singleton.2 (coherent_ofList _))
  · obtain rfl : LeaderElection.fragment = fragment := Except.ok.inj h
    exact coherentPod_empty
  · obtain rfl : MetricsSharding.fragment ctx = fragment := Except.ok.inj h
    exact coherentPod_ofList [] [MetricsSharding.container ctx.settings.shardShim] [] rfl rfl rfl
      (List.forall_mem_singleton.2 coherent_empty)
  · obtain rfl : ClusterMonitoring.fragment ctx = fragment := Except.ok.inj h
    exact coherentPod_ofList [] [ClusterMonitoring.container ctx.settings] [_] rfl rfl rfl
      (List.forall_mem_singleton.2 (coherent_ofList _))

lemma coherentPod_user {request : Request} (huser : CoherentRequest request) {fragment : Fragment}
    (h : userFragment request.userOverride request.vars = .ok (some fragment)) :
    CoherentPod fragment.pod := by
  cases hoverride : request.userOverride with
  | none =>
    cases hvars : request.vars with
    | none => simp [userFragment, hoverride, hvars] at h
    | some vars =>
      obtain rfl : { document := some vars.document } = fragment := by
        simpa [userFragment, hoverride, hvars] using h
      exact coherentPod_empty
  | some userOverride =>
    simp only [userFragment, hoverride] at h
    obtain ⟨pod, hpod, hfragment⟩ := (map_eq_ok_iff _ _ _).1 h
    obtain rfl : { pod, document := request.vars.map Vars.document } = fragment := by simpa using hfragment
    cases userOverride with
    | typed typed =>
      obtain rfl : typed = pod := Except.ok.inj hpod
      exact huser typed hoverride
    | raw value => exact coherentPod_decode hpod

lemma coherent_gatheredLayers {platform : Platform} {request : Request}
    (hcatalog : CoherentCatalog platform.catalog) (huser : CoherentRequest request)
    (hissues : gatheredIssues platform request = []) :
    ∀ layer ∈ gatheredLayers platform request, CoherentPod layer.fragment.pod := by
  intro layer hlayer
  obtain ⟨addons, user, hlayers, haddons, hfragment⟩ := gatheredLayers_eq hissues
  rw [hlayers, List.cons_append, List.mem_cons, List.mem_append] at hlayer
  rcases hlayer with rfl | hlayer | hlayer
  · exact coherentPod_defaults platform.settings request.identity
  · obtain ⟨preset, hpreset, fragment, hcontribute, rfl⟩ := haddons layer hlayer
    exact hcatalog preset hpreset _ fragment hcontribute
  · cases user with
    | none => exact absurd hlayer List.not_mem_nil
    | some fragment =>
      obtain rfl : layer = ⟨.user, fragment⟩ := List.mem_singleton.1 hlayer
      exact coherentPod_user huser hfragment

/-! ## Outcomes -/

lemma assembleLayers_eq_ok_iff (target : Target) (primary : String) (layers : List Layer)
    (assembled : Assembled) :
    assembleLayers target primary layers = .ok assembled ↔
      ∃ pod, stackPods layers = .ok pod ∧ pod.nameClash? = none ∧
        assembled = ⟨pod.inheritImage primary, stackDocuments layers, target, layers.map Layer.origin⟩ := by
  rw [assembleLayers, bind_eq_ok_iff]
  refine exists_congr fun pod => ?_
  rw [mapError_eq_ok_iff]
  refine and_congr_right fun _ => ?_
  cases hclash : pod.nameClash? with
  | none => simp [pure, Except.pure, eq_comm]
  | some clash => simp [throw, throwThe, MonadExceptOf.throw]

lemma conflict_of_assembleLayers {target : Target} {primary : String} {layers : List Layer} {issue : Issue}
    (h : assembleLayers target primary layers = .error issue) : ∃ clash, issue = .conflict clash := by
  unfold assembleLayers at h
  cases hstack : stackPods layers with
  | error clash =>
    rw [hstack] at h
    exact ⟨clash, (Except.error.inj h).symm⟩
  | ok pod =>
    rw [hstack] at h
    cases hclash : pod.nameClash? with
    | some clash =>
      simp only [Except.mapError, bind, Except.bind, hclash] at h
      exact ⟨clash, (Except.error.inj h).symm⟩
    | none =>
      simp only [Except.mapError, bind, Except.bind, hclash] at h
      cases h

lemma combine_eq_none_iff (target : Target) (issues : List Issue) :
    Issue.combine target issues = none ↔ issues = [] := by
  rcases issues with _ | ⟨first, _ | ⟨second, rest⟩⟩ <;> simp [Issue.combine]

/-- When a composition succeeds, and with what. -/
lemma assemble_eq_ok_iff (platform : Platform) (request : Request) (assembled : Assembled) :
    platform.assemble request = .ok assembled ↔
      gatheredIssues platform request = [] ∧
        ∃ pod, stackPods (gatheredLayers platform request) = .ok pod ∧ pod.nameClash? = none ∧
          assembled =
            ⟨pod.inheritImage platform.settings.workload.containerName,
              stackDocuments (gatheredLayers platform request),
              request.identity.target, (gatheredLayers platform request).map Layer.origin⟩ := by
  have htarget : (platform.gather request platform.catalog.ledger).1.target = request.identity.target := rfl
  have hclear : platform.catalog.ledger.clear = platform.catalog.ledger := rfl
  rw [Platform.assemble, Platform.assembleWith, hclear, ← htarget]
  simp only [gatheredIssues, gatheredLayers]
  generalize platform.gather request platform.catalog.ledger = gathered
  obtain ⟨composition, after⟩ := gathered
  rw [← combine_eq_none_iff composition.target, ← assembleLayers_eq_ok_iff]
  simp only [Composition.outcome]
  cases hcombine : Issue.combine composition.target composition.issues with
  | some issue => simp
  | none =>
    cases hresult : assembleLayers composition.target platform.settings.workload.containerName
      composition.layers <;> simp

end PodLayers.Proofs
