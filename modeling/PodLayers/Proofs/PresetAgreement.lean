import Mathlib.Data.List.DropRight
import PodLayers.Proofs.NullFreeDocuments
import PodLayers.Proofs.ReservedNames

/-!
# The two halves of the built-in presets

A built-in preset adds to the pod and to the document. Which presets are on decides what the document says
of the condition and the hosts of collection, in whatever order they were selected, and the file of the
monitoring token that the document names is the one that the primary container is told of and finds in its
mount. The user's document can change this only under the keys that it has.
-/

namespace PodLayers.Proofs
open Entries Joins

/-! ## Presets that are on -/

def ElectsLeader (request : Request) : Prop :=
  request.flags.leaderElection = true ∨ "leader-election" ∈ request.selected

def ShardsMetrics (request : Request) : Prop :=
  request.flags.shardedMetrics = true ∨ "metrics-sharding" ∈ request.selected

/-- Whether a preset is turned on by a flag or selected. -/
def isOn (preset : Preset) (request : Request) : Bool :=
  preset.isActive request.flags || request.selected.contains preset.key

/-- Monitoring is set up on its own and for the two presets that require it. -/
def monitors (request : Request) : Bool :=
  isOn LeaderElection.preset request || isOn MetricsSharding.preset request ||
    isOn ClusterMonitoring.preset request

lemma isOn_iff (preset : Preset) (request : Request) :
    isOn preset request = true ↔
      preset.isActive request.flags = true ∨ preset.key ∈ request.selected := by
  rw [isOn, Bool.or_eq_true, List.contains_iff_mem]

lemma electsLeader_iff (request : Request) :
    isOn LeaderElection.preset request = true ↔ ElectsLeader request := isOn_iff _ _

lemma shardsMetrics_iff (request : Request) :
    isOn MetricsSharding.preset request = true ↔ ShardsMetrics request := isOn_iff _ _

/-- No flag turns monitoring on. -/
lemma isOn_clusterMonitoring_iff (request : Request) :
    isOn ClusterMonitoring.preset request = true ↔ "cluster-monitoring" ∈ request.selected :=
  (isOn_iff _ _).trans (or_iff_right Bool.false_ne_true)

lemma monitors_iff (request : Request) :
    monitors request = true ↔
      "cluster-monitoring" ∈ request.selected ∨ ElectsLeader request ∨ ShardsMetrics request := by
  rw [monitors, Bool.or_eq_true, Bool.or_eq_true, electsLeader_iff, shardsMetrics_iff,
    isOn_clusterMonitoring_iff, or_comm]

section Layers

variable (settings : Settings) (request : Request)

/-- The order is that of the catalog, with monitoring in front of what requires it. -/
lemma asked_builtin :
    (({ settings } : Platform).asked request).eraseDups =
      (if isOn Keystore.preset request then [Preset.keystoreKey] else []) ++
        (if monitors request then [Preset.clusterMonitoringKey] else []) ++
        (if isOn LeaderElection.preset request then [Preset.leaderElectionKey] else []) ++
        (if isOn MetricsSharding.preset request then [Preset.metricsShardingKey] else []) := by
  have hasked : ({ settings } : Platform).asked request =
      ([Keystore.preset, LeaderElection.preset, MetricsSharding.preset, ClusterMonitoring.preset].filter
        fun preset => isOn preset request).flatMap fun preset => preset.requires ++ [preset.key] := rfl
  rw [hasked, monitors]
  simp only [List.filter_cons]
  cases isOn Keystore.preset request <;> cases isOn LeaderElection.preset request <;>
    cases isOn MetricsSharding.preset request <;> cases isOn ClusterMonitoring.preset request <;> rfl

lemma mem_asked_builtin :
    Preset.clusterMonitoringKey ∈ (({ settings } : Platform).asked request).eraseDups ↔
      monitors request = true := by
  rw [asked_builtin, monitors]
  cases isOn Keystore.preset request <;> cases isOn LeaderElection.preset request <;>
    cases isOn MetricsSharding.preset request <;> cases isOn ClusterMonitoring.preset request <;> decide

/-- The layers of presets that are on, lowest first. -/
def presetLayers : List Layer :=
  let ctx := ({ settings } : Platform).context request
  (if isOn Keystore.preset request then [⟨.addon Preset.keystoreKey, Keystore.fragment ctx⟩] else []) ++
    (if monitors request then [⟨.addon Preset.clusterMonitoringKey, ClusterMonitoring.fragment ctx⟩] else []) ++
    (if isOn LeaderElection.preset request then
      [⟨.addon Preset.leaderElectionKey, LeaderElection.fragment⟩] else []) ++
    (if isOn MetricsSharding.preset request then
      [⟨.addon Preset.metricsShardingKey, MetricsSharding.fragment ctx⟩] else [])

variable {settings request}

/-- The layers of a request without an override, from the defaults up to the document of the user. -/
lemma gatheredLayers_builtin (hoverride : request.userOverride = none) :
    gatheredLayers { settings } request =
      defaultLayer { settings } request :: presetLayers settings request ++
        (request.vars.map fun vars => ⟨.user, { document := some vars.document }⟩).toList := by
  have hwritten : writtenLayers request =
      (request.vars.map fun vars => (⟨.user, { document := some vars.document }⟩ : Layer)).toList := by
    unfold writtenLayers userFragment
    rw [hoverride]
    cases request.vars <;> rfl
  rw [(gathered_eq _ _).1, requestLayers, hwritten, layersOf, asked_builtin, presetLayers]
  congr 1
  cases isOn Keystore.preset request <;> cases monitors request <;>
    cases isOn LeaderElection.preset request <;> cases isOn MetricsSharding.preset request <;> rfl

end Layers

/-! ## The document -/

section Document

lemma find_erase_of_ne {α : Type} {key k : String} (hne : key ≠ k) (entries : List (String × α)) :
    find? k (erase key entries) = find? k entries := by
  induction entries with
  | nil => rfl
  | cons head rest ih =>
    obtain ⟨k', b⟩ := head
    rw [erase]
    by_cases hk : k' = key
    · subst hk
      rw [if_pos rfl, find_cons, if_neg hne]
    · rw [if_neg hk, find_cons, find_cons, ih]

/-- A key that an edit does not have is left alone. -/
lemma find_mergeEntries_of_none {edits : List (String × Value)} {key : String}
    (hkey : find? key edits = none) (target : List (String × Value)) :
    find? key (Value.mergeEntries target edits) = find? key target := by
  induction edits generalizing target with
  | nil => rfl
  | cons head rest ih =>
    obtain ⟨k, edit⟩ := head
    rw [find_cons] at hkey
    have hne : k ≠ key := by
      rintro rfl
      simp at hkey
    rw [if_neg hne] at hkey
    rw [Value.mergeEntries]
    split
    · rw [ih hkey, find_erase_of_ne hne]
    · rw [ih hkey, find_insert, if_neg hne]

lemma get_merge_of_none {lower edit : Value} {key : String} (hmapping : edit.isMapping = true)
    (hkey : edit.get? key = none) : (lower.merge edit).get? key = lower.get? key := by
  cases edit with
  | mapping edits => exact find_mergeEntries_of_none hkey lower.entries
  | null | bool | number | text | list => cases hmapping

/-- The edits of the layers below the user's, by the presets that are on. -/
def builtinEdits (settings : Settings) (request : Request) : List Value :=
  [Defaults.document settings request.identity request.flags] ++
    (if monitors request then
      [.mapping [("bearer_token_file", .text settings.monitoring.tokenFile)]] else []) ++
    (if isOn LeaderElection.preset request then
      [.mapping [("condition", .text LeaderElection.condition)]] else []) ++
    (if isOn MetricsSharding.preset request then
      [.mapping [
        ("condition", .null), ("hosts", .list [.text (MetricsSharding.localHost settings.shardShim)])]] else [])

variable {settings : Settings} {request : Request}

lemma stackDocuments_builtin (hoverride : request.userOverride = none) :
    stackDocuments (gatheredLayers { settings } request) =
      Value.mergeAll (builtinEdits settings request ++ (request.vars.map Vars.document).toList) := by
  rw [stackDocuments, gatheredLayers_builtin hoverride, presetLayers, builtinEdits]
  cases isOn Keystore.preset request <;> cases monitors request <;>
    cases isOn LeaderElection.preset request <;> cases isOn MetricsSharding.preset request <;>
    cases request.vars <;> rfl

lemma get_builtinEdits (settings : Settings) (request : Request) :
    (Value.mergeAll (builtinEdits settings request)).get? "condition" =
        (if isOn LeaderElection.preset request && !isOn MetricsSharding.preset request then
          some (.text "$\x7bkubernetes_leaderelection.leader\x7d == true") else none) ∧
      (Value.mergeAll (builtinEdits settings request)).get? "hosts" =
        some (.list [.text (if isOn MetricsSharding.preset request then
          "localhost:" ++ toString settings.shardShim.port.toNat
        else
          "https://" ++ request.identity.name ++ "-" ++ settings.workload.shortName ++ "-http." ++
            request.identity.namespaceName ++ ".svc:" ++ toString settings.workload.httpPort.toNat)]) ∧
      (Value.mergeAll (builtinEdits settings request)).get? "bearer_token_file" =
        (if monitors request then some (.text settings.monitoring.tokenFile) else none) := by
  rw [builtinEdits]
  cases monitors request <;> cases isOn LeaderElection.preset request <;>
    cases isOn MetricsSharding.preset request <;> exact ⟨rfl, rfl, rfl⟩

end Document

/-! ## The token -/

/-- A directory is the text without the slashes at its end. -/
def StripsSlashes (text dir : String) : Prop :=
  ∃ slashes, text.toList = dir.toList ++ slashes ∧ (∀ c ∈ slashes, c = '/') ∧ dir.toList.getLast? ≠ some '/'

/-- A file is the token's: the primary container has one variable for it, it is the path of the token in
the directory of the settings, and the volume of the token is mounted there. -/
structure TokenFile (settings : Settings) (pod : PodTemplate) (file : String) : Prop where
  exported : ∃ c, pod.spec.containers.get? settings.workload.containerName = some c ∧
    (c.env.filter fun var => var.name = "MONITORING_TOKEN_FILE") = [⟨"MONITORING_TOKEN_FILE", some file⟩]
  projected : ∃ dir volume projection, StripsSlashes settings.monitoring.tokenDir dir ∧
    pod.spec.volumes.get? "elastic-internal-monitoring-token" = some volume ∧
    volume.sources.projected = some ⟨[⟨some projection⟩]⟩ ∧ file = dir ++ "/" ++ projection.path
  mounted : ∃ c mount, pod.spec.containers.get? settings.workload.containerName = some c ∧
    c.volumeMounts.get? "elastic-internal-monitoring-token" = some mount ∧
    mount.mountPath = some settings.monitoring.tokenDir ∧ mount.readOnly = some true

lemma stripsSlashes_tokenFile (monitoring : Monitoring) :
    ∃ dir, StripsSlashes monitoring.tokenDir dir ∧
      monitoring.tokenFile = dir ++ "/" ++ ClusterMonitoring.tokenPath := by
  let chars := monitoring.tokenDir.toList
  refine ⟨String.ofList (chars.rdropWhile (· == '/')), ⟨chars.rtakeWhile (· == '/'), ?_, ?_, ?_⟩, ?_⟩
  · rw [String.toList_ofList]
    exact List.rdropWhile_append_rtakeWhile.symm
  · intro c hc
    simpa using List.mem_rtakeWhile_imp hc
  · rw [String.toList_ofList]
    intro hlast
    have hne : chars.rdropWhile (· == '/') ≠ [] := by
      intro hnil
      rw [hnil] at hlast
      cases hlast
    have hchar := List.rdropWhile_last_not (· == '/') chars hne
    rw [List.getLast?_eq_some_getLast hne, Option.some.injEq] at hlast
    exact hchar (by simp [hlast])
  · rw [String.append_assoc]
    rfl

section Pod

lemma lastSet_concat {α β : Type} (f : α → Option β) (parts : List α) {a : α} {b : β} (h : f a = some b) :
    lastSet f (parts ++ [a]) = some b := by
  rw [lastSet, List.filterMap_append]
  simp [h]

variable {settings : Settings} {request : Request}

/-- The containers that make up the primary one when monitoring is set up. The sidecar is one of them where
the settings give it the same name. -/
lemma primaryParts_eq (settings : Settings) (hoverride : request.userOverride = none)
    (hmonitors : monitors request = true) :
    ∃ rest, partsNamed settings.workload.containerName
        (layerEntries (fun pod => pod.spec.containers) (gatheredLayers { settings } request)) =
      [Defaults.primaryContainer settings request.identity, ClusterMonitoring.container settings] ++ rest ∧
      ∀ c ∈ rest, c = MetricsSharding.container settings.shardShim := by
  have hentries : layerEntries (fun pod => pod.spec.containers) (gatheredLayers { settings } request) =
      [Defaults.primaryContainer settings request.identity, ClusterMonitoring.container settings] ++
        if isOn MetricsSharding.preset request then [MetricsSharding.container settings.shardShim] else [] := by
    rw [gatheredLayers_builtin hoverride, presetLayers, hmonitors]
    cases isOn Keystore.preset request <;> cases isOn LeaderElection.preset request <;>
      cases isOn MetricsSharding.preset request <;> cases request.vars <;> rfl
  have hprimary : partsNamed settings.workload.containerName
      [Defaults.primaryContainer settings request.identity, ClusterMonitoring.container settings] =
      [Defaults.primaryContainer settings request.identity, ClusterMonitoring.container settings] :=
    List.filter_eq_self.2 (by simp [Named.name, Defaults.primaryContainer, ClusterMonitoring.container])
  rw [hentries, partsNamed, List.filter_append, ← partsNamed, hprimary]
  refine ⟨_, rfl, fun c hc => ?_⟩
  have hshim := List.mem_of_mem_filter hc
  split at hshim
  · exact List.mem_singleton.1 hshim
  · exact absurd hshim List.not_mem_nil

/-- The volumes under the name of the token's, of which the token's own is the last. -/
lemma tokenParts_eq (settings : Settings) (hoverride : request.userOverride = none)
    (hmonitors : monitors request = true) :
    ∃ below, partsNamed ClusterMonitoring.volume
        (layerEntries (fun pod => pod.spec.volumes) (gatheredLayers { settings } request)) =
      below ++ [ClusterMonitoring.tokenVolume settings.monitoring] := by
  have hentries : ∃ below, layerEntries (fun pod => pod.spec.volumes) (gatheredLayers { settings } request) =
      below ++ [ClusterMonitoring.tokenVolume settings.monitoring] := by
    rw [gatheredLayers_builtin hoverride, presetLayers, hmonitors]
    refine ⟨[Volume.ofSecret settings.workload.configVolumeName
      (Defaults.configSecretName settings request.identity)] ++
        if isOn Keystore.preset request then
          [.ofSecret Keystore.volume (Keystore.secretName (({ settings } : Platform).context request))]
        else [], ?_⟩
    cases isOn Keystore.preset request <;> cases isOn LeaderElection.preset request <;>
      cases isOn MetricsSharding.preset request <;> cases request.vars <;> rfl
  obtain ⟨below, hentries⟩ := hentries
  rw [hentries, partsNamed, List.filter_append]
  exact ⟨_, rfl⟩

lemma exists_of_fills {α : Type} {Made : List α → α → Prop} {parts : List α} {held : Option α}
    (h : Fills Made parts held) (hparts : parts ≠ []) : ∃ a, held = some a ∧ Made parts a := by
  cases held with
  | none => exact absurd h hparts
  | some a => exact ⟨a, rfl, h.2⟩

/-- Two containers of the primary name, of which the second sets up monitoring, and sidecars after them. -/
lemma env_of_parts {identity : Identity} {rest : List Container} {c : Container}
    (hrest : ∀ part ∈ rest, part = MetricsSharding.container settings.shardShim)
    (h : ContainerOf
      ([Defaults.primaryContainer settings identity, ClusterMonitoring.container settings] ++ rest) c) :
    c.env = [⟨ClusterMonitoring.fileVariable, some settings.monitoring.tokenFile⟩] := by
  have hnone : rest.flatMap Container.env = [] := by
    rw [List.flatMap_eq_nil_iff]
    intro part hpart
    rw [hrest part hpart]
    rfl
  rw [h.env, List.flatMap_append, hnone]
  rfl

lemma mount_of_parts {identity : Identity} {rest : List Container} {c : Container}
    (hrest : ∀ part ∈ rest, part = MetricsSharding.container settings.shardShim)
    (h : ContainerOf
      ([Defaults.primaryContainer settings identity, ClusterMonitoring.container settings] ++ rest) c) :
    ∃ mount, c.volumeMounts.get? ClusterMonitoring.volume = some mount ∧
      mount.mountPath = some settings.monitoring.tokenDir ∧ mount.readOnly = some true := by
  have hnone : (rest.flatMap fun part => part.volumeMounts.toList) = [] := by
    rw [List.flatMap_eq_nil_iff]
    intro part hpart
    rw [hrest part hpart]
    rfl
  have hmounts :
      (([Defaults.primaryContainer settings identity, ClusterMonitoring.container settings] ++ rest).flatMap
        fun part => part.volumeMounts.toList) =
      [(VolumeMount.atPath settings.workload.configVolumeName settings.workload.configMountPath).asReadOnly] ++
        [(VolumeMount.atPath ClusterMonitoring.volume settings.monitoring.tokenDir).asReadOnly] := by
    rw [List.flatMap_append, hnone]
    rfl
  have hfills := h.mount ClusterMonitoring.volume
  rw [hmounts, partsNamed, List.filter_append] at hfills
  obtain ⟨mount, hget, -, hmade⟩ :=
    exists_of_fills hfills (by simp [Named.name, VolumeMount.atPath, VolumeMount.asReadOnly])
  exact ⟨mount, hget, hmade.mountPath.trans (lastSet_concat _ _ rfl),
    hmade.readOnly.trans (lastSet_concat _ _ rfl)⟩

lemma tokenFile_of_slots {pod : PodTemplate} (hoverride : request.userOverride = none)
    (hmonitors : monitors request = true)
    (h : SlotsOf settings.workload.containerName (gatheredLayers { settings } request) pod) :
    TokenFile settings pod settings.monitoring.tokenFile := by
  obtain ⟨rest, hparts, hrest⟩ := primaryParts_eq settings hoverride hmonitors
  obtain ⟨below, hvolumes⟩ := tokenParts_eq settings hoverride hmonitors
  have hprimary := h.container settings.workload.containerName
  rw [hparts] at hprimary
  obtain ⟨c, hc, -, -, hmade⟩ := exists_of_fills hprimary (by simp)
  have htoken := h.volume ClusterMonitoring.volume
  rw [hvolumes] at htoken
  obtain ⟨volume, hvolume, -, hsources⟩ := exists_of_fills htoken (by simp)
  have hsources : volume.sources = (ClusterMonitoring.tokenVolume settings.monitoring).sources := by
    have hlast : lastSet (fun part : Volume => Option.guard VolumeSources.isSet part.sources)
        (below ++ [ClusterMonitoring.tokenVolume settings.monitoring]) =
        some (ClusterMonitoring.tokenVolume settings.monitoring).sources := lastSet_concat _ _ rfl
    rw [hsources, hlast, Option.getD_some]
  obtain ⟨dir, hdir, hfile⟩ := stripsSlashes_tokenFile settings.monitoring
  exact {
    exported := ⟨c, hc, by rw [env_of_parts hrest hmade]; rfl⟩
    projected := ⟨dir, volume, _, hdir, hvolume, by rw [hsources]; rfl, hfile⟩
    mounted := by
      obtain ⟨mount, hmount, hpath⟩ := mount_of_parts hrest hmade
      exact ⟨c, mount, hc, hmount, hpath⟩ }

end Pod

/-- The user's document does not have a key. -/
def LeavesOpen (request : Request) (key : String) : Prop :=
  ∀ vars, request.vars = some vars → vars.document.get? key = none

lemma get_document {settings : Settings} {request : Request} (hoverride : request.userOverride = none)
    (hvars : ∀ vars, request.vars = some vars → Taken vars) {key : String} (hopen : LeavesOpen request key) :
    (stackDocuments (gatheredLayers { settings } request)).get? key =
      (Value.mergeAll (builtinEdits settings request)).get? key := by
  rw [stackDocuments_builtin hoverride]
  cases hgiven : request.vars with
  | none => rw [Option.map_none, Option.toList_none, List.append_nil]
  | some vars =>
    rw [Option.map_some, Option.toList_some, Value.mergeAll, List.foldl_concat]
    exact get_merge_of_none (isMapping_of_taken (hvars vars hgiven)) (hopen vars hgiven)

lemma local_ne_service (port name shortName namespaceName httpPort : String) :
    "localhost:" ++ port ≠
      "https://" ++ name ++ "-" ++ shortName ++ "-http." ++ namespaceName ++ ".svc:" ++ httpPort := by
  intro h
  have hhead := congrArg (fun text => text.toList.head?) h
  simp only [String.toList_append, List.append_assoc] at hhead
  cases hhead

/-- What the built-in presets put into the pod and what they put into the document agree, for every choice of
presets and whatever the user's document adds under other keys. -/
theorem preset_halves_agree {settings : Settings} {request : Request} {assembled : Assembled}
    (hoverride : request.userOverride = none) (hvars : ∀ vars, request.vars = some vars → Taken vars)
    (h : ({ settings } : Platform).assemble request = .ok assembled) :
    (LeavesOpen request "condition" →
      (ElectsLeader request ∧ ¬ShardsMetrics request →
        assembled.document.get? "condition" =
          some (.text "$\x7bkubernetes_leaderelection.leader\x7d == true")) ∧
      (¬(ElectsLeader request ∧ ¬ShardsMetrics request) →
        assembled.document.get? "condition" = none)) ∧
    (LeavesOpen request "hosts" →
      (assembled.document.get? "hosts" =
          some (.list [.text ("localhost:" ++ toString settings.shardShim.port.toNat)]) ↔
        ShardsMetrics request) ∧
      (¬ShardsMetrics request →
        assembled.document.get? "hosts" =
          some (.list [.text ("https://" ++ request.identity.name ++ "-" ++ settings.workload.shortName ++
            "-http." ++ request.identity.namespaceName ++ ".svc:" ++
            toString settings.workload.httpPort.toNat)]))) ∧
    ("cluster-monitoring" ∈ assembled.trail.appliedPresets ↔
      "cluster-monitoring" ∈ request.selected ∨ ElectsLeader request ∨ ShardsMetrics request) ∧
    ("cluster-monitoring" ∈ assembled.trail.appliedPresets →
      ∃ file, TokenFile settings assembled.pod file ∧
        (LeavesOpen request "bearer_token_file" →
          assembled.document.get? "bearer_token_file" = some (.text file))) := by
  obtain ⟨hcondition, hhosts, htoken⟩ := get_builtinEdits settings request
  have hmonitoring :
      "cluster-monitoring" ∈ assembled.trail.appliedPresets ↔ monitors request = true := by
    rw [appliedPresets_eq h]
    exact mem_asked_builtin settings request
  rw [hmonitoring, ← monitors_iff]
  obtain ⟨hissues, pod, hpod, -, rfl⟩ := (assemble_eq_ok_iff _ _ _).1 h
  refine ⟨fun hopen => ?_, fun hopen => ?_, Iff.rfl, fun hmonitors => ?_⟩
  · rw [get_document hoverride hvars hopen, hcondition, ← electsLeader_iff, ← shardsMetrics_iff]
    cases isOn LeaderElection.preset request <;> cases isOn MetricsSharding.preset request <;> simp
  · rw [get_document hoverride hvars hopen, hhosts, ← shardsMetrics_iff]
    cases isOn MetricsSharding.preset request with
    | true => simp
    | false => simpa using (local_ne_service _ _ _ _ _).symm
  · have huser : CoherentRequest request := by
      intro typed htyped
      rw [hoverride] at htyped
      cases htyped
    obtain rfl := stackPods_eq_ok hpod
    refine ⟨settings.monitoring.tokenFile, tokenFile_of_slots hoverride hmonitors ?_, fun hopen => ?_⟩
    · exact slotsOf_inheritImage (coherent_gatheredLayers coherentCatalog_builtin huser hissues) _
    · rw [get_document hoverride hvars hopen, htoken, if_pos hmonitors]

/-- A directory of the token that is written with slashes at its end. -/
def slashedSettings : Settings where
  monitoring := { tokenDir := "/run/monitoring//" }

def periodVars : Vars := ⟨.mapping [("period", .text "30s")]⟩

/-- The preset that drops the condition is selected before the one that sets it. -/
def shardedRequest : Request where
  identity := { name := "kibana-sample", version := "8.0.0" }
  flags := { leaderElection := true }
  selected := [Preset.metricsShardingKey, Preset.leaderElectionKey]
  vars := some periodVars

/-- Only the leader collects, from the service. -/
def leadingRequest : Request where
  identity := { name := "kibana-sample", version := "8.0.0", namespaceName := "ops" }
  flags := { leaderElection := true }
  vars := some periodVars

set_option maxRecDepth 4000 in
theorem preset_halves_agree_slashed :
    (∃ assembled, ({ settings := slashedSettings } : Platform).assemble shardedRequest = .ok assembled ∧
      assembled.document.get? "condition" = none ∧
      assembled.document.get? "hosts" = some (.list [.text "localhost:8080"]) ∧
      TokenFile slashedSettings assembled.pod "/run/monitoring/token" ∧
      assembled.document.get? "bearer_token_file" = some (.text "/run/monitoring/token")) ∧
    ∃ assembled, ({ settings := slashedSettings } : Platform).assemble leadingRequest = .ok assembled ∧
      assembled.document.get? "condition" =
        some (.text "$\x7bkubernetes_leaderelection.leader\x7d == true") ∧
      assembled.document.get? "hosts" = some (.list [.text "https://kibana-sample-kb-http.ops.svc:5601"]) ∧
      TokenFile slashedSettings assembled.pod "/run/monitoring/token" ∧
      assembled.document.get? "bearer_token_file" = some (.text "/run/monitoring/token") := by
  have hopen (request : Request) (hperiod : request.vars = some periodVars) (key : String)
      (hkey : key ≠ "period") : LeavesOpen request key := by
    intro vars hvars
    obtain rfl := Option.some.inj (hperiod.symm.trans hvars)
    exact if_neg hkey.symm
  have htaken (request : Request) (hperiod : request.vars = some periodVars) :
      ∀ vars, request.vars = some vars → Taken vars := by
    intro vars hvars
    obtain rfl := Option.some.inj (hperiod.symm.trans hvars)
    exact .inl ⟨.mapping [("period", .text "30s")], rfl⟩
  constructor
  · obtain ⟨assembled, h, hbearer⟩ : ∃ assembled,
        ({ settings := slashedSettings } : Platform).assemble shardedRequest = .ok assembled ∧
          assembled.document.get? "bearer_token_file" = some (.text "/run/monitoring/token") := ⟨_, rfl, rfl⟩
    have hleader : ElectsLeader shardedRequest := .inl rfl
    have hsharding : ShardsMetrics shardedRequest := .inr List.mem_cons_self
    obtain ⟨hcondition, hhosts, happlied, hfile⟩ := preset_halves_agree rfl (htaken _ rfl) h
    obtain ⟨file, htoken, hnamed⟩ := hfile (happlied.2 (.inr (.inl hleader)))
    obtain rfl : file = "/run/monitoring/token" := by
      simpa [hbearer] using (hnamed (hopen _ rfl _ (by decide))).symm
    have hlocal := (hhosts (hopen _ rfl _ (by decide))).1.2 hsharding
    exact ⟨assembled, h, (hcondition (hopen _ rfl _ (by decide))).2 fun hactive => hactive.2 hsharding,
      hlocal.trans rfl, htoken, hbearer⟩
  · obtain ⟨assembled, h, hbearer⟩ : ∃ assembled,
        ({ settings := slashedSettings } : Platform).assemble leadingRequest = .ok assembled ∧
          assembled.document.get? "bearer_token_file" = some (.text "/run/monitoring/token") := ⟨_, rfl, rfl⟩
    have hleader : ElectsLeader leadingRequest := .inl rfl
    have hunsharded : ¬ShardsMetrics leadingRequest :=
      fun hsharding => hsharding.elim Bool.false_ne_true List.not_mem_nil
    obtain ⟨hcondition, hhosts, happlied, hfile⟩ := preset_halves_agree rfl (htaken _ rfl) h
    obtain ⟨file, htoken, hnamed⟩ := hfile (happlied.2 (.inr (.inl hleader)))
    obtain rfl : file = "/run/monitoring/token" := by
      simpa [hbearer] using (hnamed (hopen _ rfl _ (by decide))).symm
    have hservice := (hhosts (hopen _ rfl _ (by decide))).2 hunsharded
    exact ⟨assembled, h, (hcondition (hopen _ rfl _ (by decide))).1 ⟨hleader, hunsharded⟩,
      hservice.trans rfl, htoken, hbearer⟩

end PodLayers.Proofs
