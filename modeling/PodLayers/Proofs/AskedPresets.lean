import PodLayers.Proofs.FirstOccurrences
import PodLayers.Proofs.GatheredLayers

/-!
# Asking for presets

The state of gathering after a list of keys has been asked for, in closed form and for every ledger. A key
that contributes has its layer where it was first asked for and is recorded once, and a key that raises an issue
raises it each time. What is gathered for a request of its own depends on no more of a ledger than the keys it
knows.
-/

namespace PodLayers.Proofs

/-! ## Keys -/

section Keys

variable (catalog : Catalog) (ctx : Context)

/-- What a key contributes: an issue where the catalog has no preset of that key. -/
def contribution (key : PresetKey) : Except Issue Fragment :=
  match catalog.find? key with
  | none => .error (.unknownPreset key)
  | some preset => preset.contribute ctx

def layerOf? (key : PresetKey) : Option Layer :=
  match contribution catalog ctx key with
  | .ok fragment => some ⟨.addon key, fragment⟩
  | .error _ => none

/-- The issue of a key that does not contribute. Contributions do not change while layers are gathered: a key
that has contributed raises none later, and one that failed fails again. -/
def issueOf? (key : PresetKey) : Option Issue :=
  match contribution catalog ctx key with
  | .ok _ => none
  | .error issue => some issue

/-- The layers of the keys that contribute, each where it is first asked for. -/
def layersOf (keys : List PresetKey) : List Layer := keys.eraseDups.filterMap (layerOf? catalog ctx)

/-- The keys of the presets that have a layer, lowest first. -/
def appliedKeys (layers : List Layer) : List PresetKey :=
  layers.filterMap fun layer => Trail.presetOf? layer.origin

/-- A key contributes when it is asked for: the ledger knows it and has no record of it, and its preset does
not fail. -/
def Claimable (ledger : Ledger) (key : PresetKey) : Prop :=
  ledger.isKnown key = true ∧ ledger.isApplied ctx.identity.target key = false ∧
    ∃ fragment, contribution catalog ctx key = .ok fragment

/-- The layer of a key that contributes. -/
def grantedLayer? (ledger : Ledger) (key : PresetKey) : Option Layer :=
  if ledger.isKnown key && !ledger.isApplied ctx.identity.target key then layerOf? catalog ctx key else none

/-- The issue of a key each time it is asked for, which does not depend on what is asked for besides. -/
def raisedIssue? (ledger : Ledger) (key : PresetKey) : Option Issue :=
  if ledger.isKnown key then
    if catalog.contains key && ledger.isApplied ctx.identity.target key then none else issueOf? catalog ctx key
  else some (.unknownPreset key)

def grantedLayers (ledger : Ledger) (keys : List PresetKey) : List Layer :=
  keys.eraseDups.filterMap (grantedLayer? catalog ctx ledger)

variable {catalog ctx} {ledger : Ledger} {keys : List PresetKey} {key : PresetKey}

lemma layerOf_eq_some_iff (layer : Layer) :
    layerOf? catalog ctx key = some layer ↔
      ∃ fragment, contribution catalog ctx key = .ok fragment ∧ layer = ⟨.addon key, fragment⟩ := by
  rw [layerOf?]
  cases contribution catalog ctx key <;> simp [eq_comm]

lemma grantedLayer_eq_some_iff (layer : Layer) :
    grantedLayer? catalog ctx ledger key = some layer ↔
      ledger.isKnown key = true ∧ ledger.isApplied ctx.identity.target key = false ∧
        ∃ fragment, contribution catalog ctx key = .ok fragment ∧ layer = ⟨.addon key, fragment⟩ := by
  rw [grantedLayer?, Option.ite_none_right_eq_some, layerOf_eq_some_iff, Bool.and_eq_true, Bool.not_eq_true',
    and_assoc]

lemma claimable_iff : Claimable catalog ctx ledger key ↔ (grantedLayer? catalog ctx ledger key).isSome := by
  simp only [Option.isSome_iff_exists, grantedLayer_eq_some_iff, Claimable]
  grind

lemma contribution_of_mem {preset : Preset} (h : preset ∈ catalog.presets) :
    contribution catalog ctx preset.key = preset.contribute ctx := by
  rw [contribution, find_preset_iff.2 ⟨h, rfl⟩]

/-- Only the presets of the catalog contribute. -/
lemma exists_of_contribution {fragment : Fragment} (h : contribution catalog ctx key = .ok fragment) :
    ∃ preset ∈ catalog.presets, preset.key = key ∧ preset.contribute ctx = .ok fragment := by
  cases hfind : catalog.find? key with
  | none => simp [contribution, hfind] at h
  | some preset =>
    obtain ⟨hpreset, rfl⟩ := find_preset_iff.1 hfind
    exact ⟨preset, hpreset, rfl, (contribution_of_mem hpreset).symm.trans h⟩

lemma mem_layersOf {layer : Layer} :
    layer ∈ layersOf catalog ctx keys ↔
      ∃ preset ∈ catalog.presets, preset.key ∈ keys ∧
        ∃ fragment, preset.contribute ctx = .ok fragment ∧ layer = ⟨.addon preset.key, fragment⟩ := by
  simp only [layersOf, List.mem_filterMap, List.mem_eraseDups, layerOf_eq_some_iff]
  constructor
  · rintro ⟨key, hkey, fragment, hcontribution, rfl⟩
    obtain ⟨preset, hpreset, rfl, hcontribute⟩ := exists_of_contribution hcontribution
    exact ⟨preset, hpreset, hkey, fragment, hcontribute, rfl⟩
  · rintro ⟨preset, hpreset, hkey, fragment, hcontribute, rfl⟩
    exact ⟨preset.key, hkey, fragment, (contribution_of_mem hpreset).trans hcontribute, rfl⟩

lemma exists_mem_layersOf (P : PodTemplate → Prop) :
    (∃ layer ∈ layersOf catalog ctx keys, P layer.fragment.pod) ↔
      ∃ preset ∈ catalog.presets, preset.key ∈ keys ∧
        ∃ fragment, preset.contribute ctx = .ok fragment ∧ P fragment.pod := by
  simp only [mem_layersOf]
  constructor
  · rintro ⟨_, ⟨preset, hpreset, hkey, fragment, hcontribute, rfl⟩, hP⟩
    exact ⟨preset, hpreset, hkey, fragment, hcontribute, hP⟩
  · rintro ⟨preset, hpreset, hkey, fragment, hcontribute, hP⟩
    exact ⟨_, ⟨preset, hpreset, hkey, fragment, hcontribute, rfl⟩, hP⟩

/-- Every layer is that of its key, so the keys can be read off the layers. -/
lemma appliedKeys_filterMap {f : PresetKey → Option Layer}
    (hf : ∀ key layer, f key = some layer → layer.origin = .addon key) (keys : List PresetKey) :
    appliedKeys (keys.filterMap f) = keys.filter fun key => (f key).isSome := by
  rw [appliedKeys, List.filterMap_filterMap, ← List.filterMap_eq_filter]
  refine List.filterMap_congr fun key _ => ?_
  cases hkey : f key with
  | none => simp [Option.guard, hkey]
  | some layer => simp [Option.guard, hkey, hf key layer hkey, Trail.presetOf?]

lemma appliedKeys_layersOf :
    appliedKeys (layersOf catalog ctx keys) =
      keys.eraseDups.filter fun key => (layerOf? catalog ctx key).isSome := by
  refine appliedKeys_filterMap (fun key layer h => ?_) keys.eraseDups
  obtain ⟨fragment, -, rfl⟩ := (layerOf_eq_some_iff layer).1 h
  rfl

lemma appliedKeys_grantedLayers :
    appliedKeys (grantedLayers catalog ctx ledger keys) =
      keys.eraseDups.filter fun key => (grantedLayer? catalog ctx ledger key).isSome := by
  refine appliedKeys_filterMap (fun key layer h => ?_) keys.eraseDups
  obtain ⟨-, -, fragment, -, rfl⟩ := (grantedLayer_eq_some_iff layer).1 h
  rfl

lemma mem_appliedKeys_layersOf :
    key ∈ appliedKeys (layersOf catalog ctx keys) ↔
      key ∈ keys ∧ ∃ fragment, contribution catalog ctx key = .ok fragment := by
  simp only [appliedKeys_layersOf, List.mem_filter, List.mem_eraseDups, Option.isSome_iff_exists,
    layerOf_eq_some_iff]
  grind

lemma mem_appliedKeys_grantedLayers :
    key ∈ appliedKeys (grantedLayers catalog ctx ledger keys) ↔
      key ∈ keys ∧ Claimable catalog ctx ledger key := by
  rw [appliedKeys_grantedLayers, List.mem_filter, List.mem_eraseDups, claimable_iff]

lemma grantedLayers_concat (key : PresetKey) :
    grantedLayers catalog ctx ledger (keys ++ [key]) =
      grantedLayers catalog ctx ledger keys ++
        if key ∈ keys then [] else (grantedLayer? catalog ctx ledger key).toList := by
  rw [grantedLayers, eraseDups_concat]
  split_ifs
  · exact (List.append_nil _).symm
  · rw [List.filterMap_append]
    cases hlayer : grantedLayer? catalog ctx ledger key <;> simp [hlayer, grantedLayers]

end Keys

/-! ## Ledgers -/

/-- A ledger knows every key of a catalog. -/
def Knows (ledger : Ledger) (catalog : Catalog) : Prop :=
  ∀ preset ∈ catalog.presets, ledger.isKnown preset.key = true

section Ledgers

variable {α : Type} [DecidableEq α] (before : α → α → Bool)

lemma mem_insertInOrder (a b : α) (list : List α) : b ∈ insertInOrder before a list ↔ b = a ∨ b ∈ list := by
  induction list with
  | nil => simp [insertInOrder]
  | cons c rest ih =>
    rw [insertInOrder]
    split_ifs with heq hbefore
    · rw [heq, List.mem_cons]
      tauto
    · exact List.mem_cons
    · rw [List.mem_cons, ih, List.mem_cons]
      tauto

lemma insertInOrder_perm {a : α} {list : List α} (h : a ∉ list) :
    (insertInOrder before a list).Perm (list ++ [a]) := by
  induction list with
  | nil => rfl
  | cons b rest ih =>
    obtain ⟨hne, hrest⟩ := not_or.1 (List.mem_cons.not.1 h)
    rw [insertInOrder, if_neg hne]
    split_ifs
    · exact (List.perm_append_singleton a (b :: rest)).symm
    · exact (ih hrest).cons b

lemma mem_foldl_insertInOrder (items list : List α) (b : α) :
    b ∈ items.foldl (fun list a => insertInOrder before a list) list ↔ b ∈ list ∨ b ∈ items := by
  induction items generalizing list with
  | nil => simp
  | cons a rest ih =>
    rw [List.foldl_cons, ih, mem_insertInOrder, List.mem_cons]
    tauto

end Ledgers

lemma knows_ledger (catalog : Catalog) : Knows catalog.ledger catalog := by
  intro preset hpreset
  have hkey : preset.key ∈ catalog.keys := List.mem_map_of_mem hpreset
  rw [Ledger.isKnown, List.contains_iff_mem]
  exact (mem_foldl_insertInOrder _ catalog.keys [] preset.key).2 (.inr hkey)

lemma find_eq_none_of_unknown {catalog : Catalog} {ledger : Ledger} {key : PresetKey}
    (hknows : Knows ledger catalog) (h : catalog.find? key = none ∨ ledger.isKnown key = false) :
    catalog.find? key = none := by
  cases hfind : catalog.find? key with
  | none => rfl
  | some preset =>
    obtain ⟨hpreset, rfl⟩ := find_preset_iff.1 hfind
    rcases h with h | h
    · exact absurd (hfind.symm.trans h) (by simp)
    · exact absurd ((hknows preset hpreset).symm.trans h) (by simp)

/-- A ledger that knows the whole catalog and has nothing on record grants every key. -/
lemma grantedLayers_eq_layersOf {catalog : Catalog} {ledger : Ledger} (hknows : Knows ledger catalog)
    (happlied : ledger.applied = []) (ctx : Context) (keys : List PresetKey) :
    grantedLayers catalog ctx ledger keys = layersOf catalog ctx keys := by
  refine List.filterMap_congr fun key _ => ?_
  rw [grantedLayer?]
  split_ifs with hgranted
  · rfl
  · have hunknown : ledger.isKnown key = false := by
      simpa [Ledger.isApplied, happlied] using hgranted
    have hfind : catalog.find? key = none := find_eq_none_of_unknown hknows (.inr hunknown)
    rw [layerOf?, contribution, hfind]

lemma raisedIssue_eq_issueOf {catalog : Catalog} {ledger : Ledger} (hknows : Knows ledger catalog)
    (happlied : ledger.applied = []) (ctx : Context) (key : PresetKey) :
    raisedIssue? catalog ctx ledger key = issueOf? catalog ctx key := by
  rw [raisedIssue?]
  split_ifs with hknown hrepeated
  · simp [Ledger.isApplied, happlied] at hrepeated
  · rfl
  · have hfind : catalog.find? key = none :=
      find_eq_none_of_unknown hknows (.inr (Bool.eq_false_iff.2 hknown))
    rw [issueOf?, contribution, hfind]

/-! ## Runs -/

/-- What asking for keys makes of a state. -/
structure Asked (catalog : Catalog) (ctx : Context) (start : Gathering) (keys : List PresetKey)
    (state : Gathering) : Prop where
  known : state.ledger.known = start.ledger.known
  layers : state.layers = start.layers ++ grantedLayers catalog ctx start.ledger keys
  issues : state.issues = start.issues ++ keys.filterMap (raisedIssue? catalog ctx start.ledger)
  applied : state.ledger.applied.Perm
    (start.ledger.applied ++
      (appliedKeys (grantedLayers catalog ctx start.ledger keys)).map fun key => (ctx.identity.target, key))

section Runs

variable {catalog : Catalog} {ctx : Context} {start state : Gathering} {keys : List PresetKey}
  {key : PresetKey}

lemma asked_nil (catalog : Catalog) (ctx : Context) (start : Gathering) : Asked catalog ctx start [] start where
  known := rfl
  layers := (List.append_nil _).symm
  issues := (List.append_nil _).symm
  applied := by
    have hnone : appliedKeys (grantedLayers catalog ctx start.ledger []) = [] := rfl
    rw [hnone, List.map_nil, List.append_nil]

namespace Asked

/-- A record is an old one, or it was made when the key was asked for. -/
lemma isApplied_iff (h : Asked catalog ctx start keys state) :
    state.ledger.isApplied ctx.identity.target key = true ↔
      start.ledger.isApplied ctx.identity.target key = true ∨
        key ∈ keys ∧ Claimable catalog ctx start.ledger key := by
  rw [Ledger.isApplied, Ledger.isApplied, List.contains_iff_mem, List.contains_iff_mem, h.applied.mem_iff,
    List.mem_append, ← mem_appliedKeys_grantedLayers]
  simp

lemma issues_concat (h : Asked catalog ctx start keys state) (key : PresetKey) :
    state.issues ++ (raisedIssue? catalog ctx start.ledger key).toList =
      start.issues ++ (keys ++ [key]).filterMap (raisedIssue? catalog ctx start.ledger) := by
  rw [h.issues, List.append_assoc, List.filterMap_append]
  cases hissue : raisedIssue? catalog ctx start.ledger key <;> simp [hissue]

/-- A key that has been asked for before, or that does not contribute, leaves at most an issue. -/
lemma concat_of_silent (h : Asked catalog ctx start keys state)
    (hsilent : key ∈ keys ∨ ¬Claimable catalog ctx start.ledger key) {next : Gathering}
    (hledger : next.ledger = state.ledger) (hlayers : next.layers = state.layers)
    (hissues : next.issues = state.issues ++ (raisedIssue? catalog ctx start.ledger key).toList) :
    Asked catalog ctx start (keys ++ [key]) next := by
  have hsame : grantedLayers catalog ctx start.ledger (keys ++ [key]) =
      grantedLayers catalog ctx start.ledger keys := by
    rw [grantedLayers_concat]
    rcases hsilent with hkey | hclaimable
    · rw [if_pos hkey, List.append_nil]
    · rw [claimable_iff, Option.not_isSome_iff_eq_none] at hclaimable
      simp [hclaimable]
  exact {
    known := by rw [hledger]; exact h.known
    layers := by rw [hlayers, hsame]; exact h.layers
    issues := hissues.trans (h.issues_concat key)
    applied := by rw [hledger, hsame]; exact h.applied }

/-- A key that contributes for the first time has its layer and is recorded. -/
lemma concat_of_fresh (h : Asked catalog ctx start keys state) {fragment : Fragment}
    (hknown : start.ledger.isKnown key = true)
    (hfresh : state.ledger.isApplied ctx.identity.target key = false)
    (hcontribution : contribution catalog ctx key = .ok fragment) :
    Asked catalog ctx start (keys ++ [key])
      { ledger := state.ledger.record ctx.identity.target key
        layers := state.layers ++ [⟨.addon key, fragment⟩]
        issues := state.issues } := by
  obtain ⟨hunapplied, hnew⟩ : ¬start.ledger.isApplied ctx.identity.target key = true ∧
      ¬(key ∈ keys ∧ Claimable catalog ctx start.ledger key) := by
    rw [← not_or, ← h.isApplied_iff, hfresh]
    exact Bool.false_ne_true
  have hclaimable : Claimable catalog ctx start.ledger key :=
    ⟨hknown, Bool.eq_false_iff.2 hunapplied, fragment, hcontribution⟩
  have hkey : key ∉ keys := fun hkey => hnew ⟨hkey, hclaimable⟩
  have hrecord : (ctx.identity.target, key) ∉ state.ledger.applied := by
    rw [← List.contains_iff_mem]
    exact Bool.eq_false_iff.1 hfresh
  have hlayer : grantedLayer? catalog ctx start.ledger key = some ⟨.addon key, fragment⟩ :=
    (grantedLayer_eq_some_iff _).2 ⟨hknown, hclaimable.2.1, fragment, hcontribution, rfl⟩
  have hissue : raisedIssue? catalog ctx start.ledger key = none := by
    rw [raisedIssue?, if_pos hknown, issueOf?, hcontribution]
    exact ite_self none
  have hlayers : grantedLayers catalog ctx start.ledger (keys ++ [key]) =
      grantedLayers catalog ctx start.ledger keys ++ [⟨.addon key, fragment⟩] := by
    rw [grantedLayers_concat, if_neg hkey, hlayer, Option.toList_some]
  exact {
    known := h.known
    layers := by rw [hlayers, ← List.append_assoc, ← h.layers]
    issues := by simpa [hissue] using h.issues_concat key
    applied := by
      rw [hlayers]
      refine (insertInOrder_perm _ hrecord).trans ?_
      simpa [appliedKeys, Trail.presetOf?] using h.applied.append_right [(ctx.identity.target, key)] }

/-- One more key: it is refused, has been applied, fails, or contributes. -/
lemma request (h : Asked catalog ctx start keys state) (key : PresetKey) :
    Asked catalog ctx start (keys ++ [key]) (state.request catalog ctx key) := by
  have hknown : state.ledger.isKnown key = start.ledger.isKnown key := by
    rw [Ledger.isKnown, h.known, Ledger.isKnown]
  rcases request_cases catalog ctx state key with ⟨hunknown, hstate⟩ | ⟨preset, hfind, hknows, hcases⟩
  · rw [hknown] at hunknown
    have hissue : raisedIssue? catalog ctx start.ledger key = some (.unknownPreset key) := by
      rcases hunknown with hfind | hunknown
      · simp [raisedIssue?, Catalog.contains, issueOf?, contribution, hfind]
      · simp [raisedIssue?, hunknown]
    have hclaimable : ¬Claimable catalog ctx start.ledger key := by
      rintro ⟨hclaimed, -, fragment, hok⟩
      rcases hunknown with hfind | hunknown
      · simp [contribution, hfind] at hok
      · exact Bool.false_ne_true (hunknown.symm.trans hclaimed)
    rw [hstate]
    exact h.concat_of_silent (.inr hclaimable) rfl rfl (by rw [hissue]; rfl)
  · have hcontribution : contribution catalog ctx key = preset.contribute ctx := by
      rw [contribution, hfind]
    rw [hknown] at hknows
    rcases hcases with ⟨happlied, hstate⟩ | ⟨hfresh, ⟨issue, hissue, hstate⟩ | ⟨fragment, hok, hstate⟩⟩
    · have hsilent : key ∈ keys ∨ ¬Claimable catalog ctx start.ledger key := by
        rcases h.isApplied_iff.1 happlied with hold | hasked
        · exact .inr fun hclaimable => Bool.false_ne_true (hclaimable.2.1.symm.trans hold)
        · exact .inl hasked.1
      have hissue : raisedIssue? catalog ctx start.ledger key = none := by
        rw [raisedIssue?, if_pos hknows]
        rcases h.isApplied_iff.1 happlied with hold | ⟨-, -, -, fragment, hok⟩
        · simp [Catalog.contains, hfind, hold]
        · rw [issueOf?, hok]
          exact ite_self none
      rw [hstate]
      exact h.concat_of_silent hsilent rfl rfl (by rw [hissue]; exact (List.append_nil _).symm)
    · have hunapplied : start.ledger.isApplied ctx.identity.target key = false := by
        rw [Bool.eq_false_iff]
        intro hold
        exact Bool.false_ne_true (hfresh.symm.trans (h.isApplied_iff.2 (.inl hold)))
      have hraised : raisedIssue? catalog ctx start.ledger key = some issue := by
        simp [raisedIssue?, hknows, hunapplied, issueOf?, hcontribution, hissue]
      have hclaimable : ¬Claimable catalog ctx start.ledger key := by
        rintro ⟨-, -, fragment, hok⟩
        simp [hcontribution, hissue] at hok
      rw [hstate]
      exact h.concat_of_silent (.inr hclaimable) rfl rfl (by rw [hraised]; rfl)
    · rw [hstate]
      exact h.concat_of_fresh hknows hfresh (hcontribution.trans hok)

end Asked

lemma asked_foldl (catalog : Catalog) (ctx : Context) (start : Gathering) (keys : List PresetKey) :
    Asked catalog ctx start keys (keys.foldl (Gathering.request catalog ctx) start) := by
  induction keys using List.reverseRecOn with
  | nil => exact asked_nil catalog ctx start
  | append_singleton keys key ih =>
    rw [List.foldl_concat]
    exact ih.request key

end Runs

/-! ## Requests -/

section Requests

variable (platform : Platform) (request : Request)

def overrideIssue? : Option Issue :=
  match request.userOverride with
  | none => none
  | some userOverride =>
    match userOverride.pod with
    | .ok _ => none
    | .error issue => some issue

/-- The layer of what the user wrote, if all of it can be read. -/
def writtenLayers : List Layer :=
  match userFragment request.userOverride request.vars with
  | .ok user => userLayers user
  | .error _ => []

/-- The layers of a request: the defaults, the presets asked for, and what the user wrote. -/
def requestLayers : List Layer :=
  defaultLayer platform request ::
    layersOf platform.catalog (platform.context request) (platform.asked request) ++ writtenLayers request

/-- The issues of a request: selected keys without a preset, the issues of the keys asked for, and that of
the override. -/
def requestIssues : List Issue :=
  (platform.unknownSelections request).map Issue.unknownPreset ++
    (platform.asked request).filterMap (issueOf? platform.catalog (platform.context request)) ++
    (overrideIssue? request).toList

variable {platform request} {ledger : Ledger}

lemma userFragment_eq_error_iff (issue : Issue) :
    userFragment request.userOverride request.vars = .error issue ↔ overrideIssue? request = some issue := by
  unfold userFragment overrideIssue?
  cases request.userOverride with
  | none => cases request.vars <;> simp
  | some userOverride => cases hpod : userOverride.pod <;> simp [Except.map, hpod]

lemma overrideIssue_eq_none {user : Option Fragment}
    (h : userFragment request.userOverride request.vars = .ok user) : overrideIssue? request = none := by
  rw [Option.eq_none_iff_forall_not_mem]
  intro issue hissue
  rw [(userFragment_eq_error_iff issue).2 hissue] at h
  cases h

lemma asked_presetsGathered (platform : Platform) (request : Request) (ledger : Ledger) :
    Asked platform.catalog (platform.context request) (platform.start request ledger)
      (platform.asked request) (presetsGathered platform request ledger) :=
  asked_foldl platform.catalog (platform.context request) (platform.start request ledger)
    (platform.asked request)

/-- What is gathered depends on no more of a ledger than the keys it knows. -/
lemma gather_fst (hknows : Knows ledger platform.catalog) (happlied : ledger.applied = []) :
    (platform.gather request ledger).1 =
      ⟨request.identity.target, requestLayers platform request, requestIssues platform request⟩ := by
  have hasked := asked_presetsGathered platform request ledger
  have hlayers : (presetsGathered platform request ledger).layers = defaultLayer platform request ::
      layersOf platform.catalog (platform.context request) (platform.asked request) := by
    rw [← grantedLayers_eq_layersOf hknows happlied]
    exact hasked.layers
  have hissues : (presetsGathered platform request ledger).issues =
      (platform.unknownSelections request).map Issue.unknownPreset ++
        (platform.asked request).filterMap (issueOf? platform.catalog (platform.context request)) := by
    rw [← funext (raisedIssue_eq_issueOf hknows happlied (platform.context request))]
    exact hasked.issues
  unfold requestLayers requestIssues writtenLayers
  rw [Platform.gather, ← presetsGathered, ← hlayers, ← hissues]
  cases hfragment : userFragment request.userOverride request.vars with
  | error issue =>
    rw [(userFragment_eq_error_iff issue).1 hfragment]
    simp [Gathering.addIssue]
  | ok user =>
    rw [overrideIssue_eq_none hfragment]
    cases user <;> simp [Gathering.addLayer, userLayers]

lemma gather_snd : (platform.gather request ledger).2 = (presetsGathered platform request ledger).ledger := by
  rw [Platform.gather, ← presetsGathered]
  rcases userFragment request.userOverride request.vars with issue | (_ | fragment) <;> rfl

variable (platform request)

lemma gathered_eq :
    gatheredLayers platform request = requestLayers platform request ∧
      gatheredIssues platform request = requestIssues platform request := by
  rw [gatheredLayers, gatheredIssues, gather_fst (knows_ledger platform.catalog) rfl]
  exact ⟨rfl, rfl⟩

lemma appliedKeys_requestLayers :
    appliedKeys (requestLayers platform request) =
      appliedKeys (layersOf platform.catalog (platform.context request) (platform.asked request)) := by
  have hwritten : appliedKeys (writtenLayers request) = [] := by
    unfold writtenLayers
    rcases userFragment request.userOverride request.vars with issue | (_ | fragment) <;> rfl
  rw [appliedKeys, requestLayers, List.filterMap_append, ← appliedKeys, ← appliedKeys, hwritten,
    List.append_nil]
  rfl

/-- What becomes of a request: its issues, or the result of its layers. -/
def requestOutcome : Except Issue Assembled :=
  (⟨request.identity.target, requestLayers platform request, requestIssues platform request⟩ :
      Composition).outcome fun target layers =>
    assembleLayers target platform.settings.workload.containerName layers

lemma assembleWith_eq {ledger : Ledger} (hknows : Knows ledger platform.catalog) :
    platform.assembleWith request ledger =
      (requestOutcome platform request,
        match requestOutcome platform request with
        | .ok _ => (presetsGathered platform request ledger.clear).ledger
        | .error _ => ledger) := by
  have hcleared : Knows ledger.clear platform.catalog := hknows
  have hgather : platform.gather request ledger.clear =
      (⟨request.identity.target, requestLayers platform request, requestIssues platform request⟩,
        (presetsGathered platform request ledger.clear).ledger) :=
    Prod.ext (gather_fst hcleared rfl) gather_snd
  rw [Platform.assembleWith, hgather, requestOutcome]
  dsimp only
  split <;> rename_i houtcome <;> rw [houtcome]

lemma assemble_eq : platform.assemble request = requestOutcome platform request := by
  rw [Platform.assemble, assembleWith_eq platform request (knows_ledger platform.catalog)]

variable {platform request} {assembled : Assembled}

lemma assemble_ok_layers (h : platform.assemble request = .ok assembled) :
    requestIssues platform request = [] ∧
      assembled.trail.origins = (requestLayers platform request).map Layer.origin := by
  obtain ⟨hissues, pod, -, -, rfl⟩ := (assemble_eq_ok_iff _ _ _).1 h
  obtain ⟨hlayers, hraised⟩ := gathered_eq platform request
  exact ⟨hraised ▸ hissues, by rw [hlayers]⟩

lemma appliedPresets_eq_appliedKeys (h : platform.assemble request = .ok assembled) :
    assembled.trail.appliedPresets = appliedKeys (requestLayers platform request) := by
  rw [Trail.appliedPresets, (assemble_ok_layers h).2, List.filterMap_map]
  rfl

end Requests

end PodLayers.Proofs
