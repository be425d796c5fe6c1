import PodLayers.Proofs.SharedLedger

/-!
# Selected keys

What a request selects counts as a set, and a key counts only where the flags do not turn its preset on
anyway. Requests that agree in this gather the same layers with every ledger, and so end alike.
-/

namespace PodLayers.Proofs

/-- The flags turn the preset of a key on, whether or not it is selected. -/
def Redundant (catalog : Catalog) (flags : Flags) (key : PresetKey) : Prop :=
  ∃ preset ∈ catalog.presets, preset.key = key ∧ preset.isActive flags = true

/-- Two lists select the same keys, whatever their order and their repetitions, apart from keys that are
redundant. -/
def SameSelection (catalog : Catalog) (flags : Flags) (selected others : List PresetKey) : Prop :=
  ∀ key, ¬Redundant catalog flags key → (key ∈ selected ↔ key ∈ others)

def withSelected (request : Request) (selected : List PresetKey) : Request := { request with selected }

section Selection

variable {platform : Platform} {request : Request} {selected others : List PresetKey}

lemma chosen_withSelected (h : SameSelection platform.catalog request.flags selected others) :
    platform.chosen (withSelected request selected) = platform.chosen (withSelected request others) := by
  refine List.filter_congr fun preset hpreset => ?_
  change (preset.isActive request.flags || selected.contains preset.key) =
    (preset.isActive request.flags || others.contains preset.key)
  cases hactive : preset.isActive request.flags with
  | true => rfl
  | false =>
    have hkey : ¬Redundant platform.catalog request.flags preset.key := by
      rintro ⟨other, hother, hname, hon⟩
      obtain rfl : other = preset := List.inj_on_of_nodup_map platform.catalog.distinct hother hpreset hname
      exact Bool.false_ne_true (hactive.symm.trans hon)
    have hmem : selected.contains preset.key = others.contains preset.key := by
      rw [Bool.eq_iff_iff, List.contains_iff_mem, List.contains_iff_mem]
      exact h preset.key hkey
    rw [hmem]

lemma unknownSelections_withSelected (h : ∀ key ∈ selected, platform.catalog.contains key = true) :
    platform.unknownSelections (withSelected request selected) = [] := by
  refine List.filter_eq_nil_iff.2 fun key hkey => ?_
  rw [h key hkey]
  exact Bool.false_ne_true

/-- The selection enters the gathering of layers through the chosen presets and the unknown keys only. -/
lemma gather_withSelected (hselected : ∀ key ∈ selected, platform.catalog.contains key = true)
    (hothers : ∀ key ∈ others, platform.catalog.contains key = true)
    (hsame : SameSelection platform.catalog request.flags selected others) (ledger : Ledger) :
    platform.gather (withSelected request selected) ledger =
      platform.gather (withSelected request others) ledger := by
  have hasked : platform.asked (withSelected request selected) =
      platform.asked (withSelected request others) := by
    rw [Platform.asked, chosen_withSelected hsame, ← Platform.asked]
  have hstart : platform.start (withSelected request selected) ledger =
      platform.start (withSelected request others) ledger := by
    rw [Platform.start, Platform.start, unknownSelections_withSelected hselected,
      unknownSelections_withSelected hothers]
    rfl
  rw [Platform.gather, Platform.gather, hasked, hstart]
  rfl

end Selection

/-- Requests that select the same keys, up to order, repetitions and keys of presets that are on anyway, end
alike with a ledger and leave the same one. -/
theorem assembleWith_sameSelection {platform : Platform} {request : Request}
    {selected others : List PresetKey}
    (hselected : ∀ key ∈ selected, platform.catalog.contains key = true)
    (hothers : ∀ key ∈ others, platform.catalog.contains key = true)
    (hsame : SameSelection platform.catalog request.flags selected others) (ledger : Ledger) :
    platform.assembleWith (withSelected request selected) ledger =
      platform.assembleWith (withSelected request others) ledger := by
  have hgather := gather_withSelected hselected hothers hsame ledger.clear
  rw [Platform.assembleWith, Platform.assembleWith, hgather]

/-- A request for which the flags turn leader election on. -/
def electingRequest : Request where
  identity := { name := "kibana-sample", version := "8.0.0" }
  flags := { leaderElection := true }
  vars := some ⟨.mapping [("period", .text "30s")]⟩

def sidecarSelection : List PresetKey :=
  [Preset.metricsShardingKey, Preset.keystoreKey, Preset.metricsShardingKey]

/-- The same keys in another order, and leader election besides. -/
def electedSelection : List PresetKey :=
  [Preset.leaderElectionKey, Preset.keystoreKey, Preset.metricsShardingKey]

set_option maxRecDepth 4000 in
theorem assembleWith_sameSelection_reordered :
    (∀ key ∈ sidecarSelection, ({} : Platform).catalog.contains key = true) ∧
      (∀ key ∈ electedSelection, ({} : Platform).catalog.contains key = true) ∧
      SameSelection ({} : Platform).catalog electingRequest.flags sidecarSelection electedSelection ∧
      ({} : Platform).assembleWith (withSelected electingRequest sidecarSelection) usedLedger =
        ({} : Platform).assembleWith (withSelected electingRequest electedSelection) usedLedger ∧
      ∃ assembled,
        (({} : Platform).assembleWith (withSelected electingRequest electedSelection) usedLedger).1 =
          .ok assembled ∧
        assembled.trail.appliedPresets = [Preset.keystoreKey, Preset.clusterMonitoringKey,
          Preset.leaderElectionKey, Preset.metricsShardingKey] := by
  have hselected : ∀ key ∈ sidecarSelection, ({} : Platform).catalog.contains key = true := by decide
  have hothers : ∀ key ∈ electedSelection, ({} : Platform).catalog.contains key = true := by decide
  have hmem : LeaderElection.preset ∈ ({} : Platform).catalog.presets :=
    List.mem_cons_of_mem Keystore.preset List.mem_cons_self
  have hsame : SameSelection ({} : Platform).catalog electingRequest.flags sidecarSelection
      electedSelection := by
    intro key hkey
    have hne : key ≠ Preset.leaderElectionKey := by
      rintro rfl
      exact hkey ⟨LeaderElection.preset, hmem, rfl, rfl⟩
    simp only [sidecarSelection, electedSelection, List.mem_cons, List.not_mem_nil, or_false, hne, false_or]
    tauto
  have hsettled := assembleWith_sameSelection hselected hothers hsame usedLedger
  exact ⟨hselected, hothers, hsame, hsettled, _, rfl, rfl⟩

end PodLayers.Proofs
