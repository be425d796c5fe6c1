import PodLayers.Proofs.AskedPresets

/-!
# Gathering with one ledger

Layers are gathered for one request after another, by any platforms, with one ledger that nobody clears. A
call adds to the ledger the pairs for which it has layers and no others, and these are pairs that the ledger
did not have. So every pair of target and preset contributes once in all calls together, also when calls meet
issues.
-/

namespace PodLayers.Proofs

/-- The pairs of target and preset that have a layer in a composition. -/
def applications (composition : Composition) : List Application :=
  (appliedKeys composition.layers).map fun key => (composition.target, key)

/-! ## Calls -/

/-- What one call gathers with a ledger, and which ledger it leaves. -/
structure GathersOnce (platform : Platform) (request : Request) (before : Ledger)
    (composition : Composition) (after : Ledger) : Prop where
  target : composition.target = request.identity.target
  known : after.known = before.known
  granted : ∀ key, key ∈ appliedKeys composition.layers ↔
    key ∈ platform.asked request ∧ Claimable platform.catalog (platform.context request) before key
  distinct : (applications composition).Nodup
  fresh : (applications composition).Disjoint before.applied
  recorded : after.applied.Perm (before.applied ++ applications composition)
  failed : ∀ key issue, contribution platform.catalog (platform.context request) key = .error issue →
    key ∉ appliedKeys composition.layers ∧
      after.isApplied composition.target key = before.isApplied composition.target key
  elsewhere : ∀ target, target ≠ composition.target → ∀ key,
    after.isApplied target key = before.isApplied target key

/-- The compositions of calls made one after another. -/
def gatherEach : List (Platform × Request) → Ledger → List Composition
  | [], _ => []
  | (platform, request) :: rest, ledger =>
    let (composition, after) := platform.gather request ledger
    composition :: gatherEach rest after

def ledgerGathered : List (Platform × Request) → Ledger → Ledger
  | [], ledger => ledger
  | (platform, request) :: rest, ledger => ledgerGathered rest (platform.gather request ledger).2

section Calls

variable (platform : Platform) (request : Request) (ledger : Ledger)

lemma appliedKeys_gather :
    appliedKeys (platform.gather request ledger).1.layers =
      appliedKeys (grantedLayers platform.catalog (platform.context request) ledger (platform.asked request)) := by
  have hpresets : appliedKeys (presetsGathered platform request ledger).layers =
      appliedKeys (grantedLayers platform.catalog (platform.context request) ledger
        (platform.asked request)) := by
    rw [(asked_presetsGathered platform request ledger).layers]
    rfl
  rw [← hpresets, Platform.gather, ← presetsGathered]
  rcases userFragment request.userOverride request.vars with issue | (_ | fragment)
  · rfl
  · rfl
  · simp [appliedKeys, Gathering.addLayer, Trail.presetOf?]

lemma mem_applications_iff (composition : Composition) (pair : Application) :
    pair ∈ applications composition ↔ pair.1 = composition.target ∧ pair.2 ∈ appliedKeys composition.layers := by
  obtain ⟨target, key⟩ := pair
  simp [applications, and_comm, eq_comm]

lemma isApplied_of_perm {before after : Ledger} {composition : Composition}
    (h : after.applied.Perm (before.applied ++ applications composition)) (pair : Application)
    (hpair : pair ∉ applications composition) :
    after.isApplied pair.1 pair.2 = before.isApplied pair.1 pair.2 := by
  rw [Bool.eq_iff_iff, Ledger.isApplied, Ledger.isApplied, List.contains_iff_mem, List.contains_iff_mem,
    h.mem_iff, List.mem_append]
  exact or_iff_left hpair

lemma gathersOnce_gather :
    GathersOnce platform request ledger (platform.gather request ledger).1
      (platform.gather request ledger).2 := by
  have hasked := asked_presetsGathered platform request ledger
  have htarget : (platform.gather request ledger).1.target = request.identity.target := rfl
  have hledger : (platform.gather request ledger).2 = (presetsGathered platform request ledger).ledger :=
    gather_snd
  have hkeys := appliedKeys_gather platform request ledger
  have hrecorded : (platform.gather request ledger).2.applied.Perm
      (ledger.applied ++ applications (platform.gather request ledger).1) := by
    rw [hledger, applications, hkeys]
    exact hasked.applied
  have hgranted (key : PresetKey) : key ∈ appliedKeys (platform.gather request ledger).1.layers ↔
      key ∈ platform.asked request ∧
        Claimable platform.catalog (platform.context request) ledger key := by
    rw [hkeys, mem_appliedKeys_grantedLayers]
  exact {
    target := htarget
    known := by rw [hledger]; exact hasked.known
    granted := hgranted
    distinct := by
      rw [applications, hkeys, appliedKeys_grantedLayers]
      exact ((nodup_eraseDups _).filter _).map fun key other heq => (Prod.mk.inj heq).2
    fresh := fun pair hpair hold => by
      obtain ⟨hpairTarget, hkey⟩ := (mem_applications_iff _ _).1 hpair
      have hclaimable := ((hgranted pair.2).1 hkey).2
      have happlied : ledger.isApplied request.identity.target pair.2 = true := by
        rw [Ledger.isApplied, List.contains_iff_mem, ← htarget, ← hpairTarget]
        exact hold
      exact Bool.false_ne_true (hclaimable.2.1.symm.trans happlied)
    recorded := hrecorded
    failed := fun key issue hissue => by
      have hkey : key ∉ appliedKeys (platform.gather request ledger).1.layers := by
        intro hkey
        obtain ⟨-, -, -, fragment, hok⟩ := (hgranted key).1 hkey
        rw [hissue] at hok
        cases hok
      refine ⟨hkey, isApplied_of_perm hrecorded (_, key) fun hpair => ?_⟩
      exact hkey ((mem_applications_iff _ _).1 hpair).2
    elsewhere := fun target htarget key =>
      isApplied_of_perm hrecorded (target, key) fun hpair =>
        htarget ((mem_applications_iff _ _).1 hpair).1 }

/-- Later calls find everything on record that earlier ones applied. -/
lemma applied_ledgerGathered (calls : List (Platform × Request)) (ledger : Ledger) :
    (ledgerGathered calls ledger).applied.Perm
      (ledger.applied ++ (gatherEach calls ledger).flatMap applications) := by
  induction calls generalizing ledger with
  | nil => simp [ledgerGathered, gatherEach]
  | cons call rest ih =>
    obtain ⟨platform, request⟩ := call
    have hcall := gathersOnce_gather platform request ledger
    have hrest := ih (platform.gather request ledger).2
    rw [ledgerGathered, gatherEach, List.flatMap_cons, ← List.append_assoc]
    exact hrest.trans (hcall.recorded.append_right _)

lemma gatherEach_apart (calls : List (Platform × Request)) (ledger : Ledger) :
    (∀ composition ∈ gatherEach calls ledger,
      (applications composition).Nodup ∧ (applications composition).Disjoint ledger.applied) ∧
      (gatherEach calls ledger).Pairwise fun a b => (applications a).Disjoint (applications b) := by
  induction calls generalizing ledger with
  | nil => exact ⟨fun _ h => absurd h List.not_mem_nil, List.Pairwise.nil⟩
  | cons call rest ih =>
    obtain ⟨platform, request⟩ := call
    have hcall := gathersOnce_gather platform request ledger
    obtain ⟨hlater, hapart⟩ := ih (platform.gather request ledger).2
    -- what this call applied is on record for the later ones, with all that was there before
    have hrecord : ∀ composition ∈ gatherEach rest (platform.gather request ledger).2,
        (applications composition).Disjoint (ledger.applied ++ applications (platform.gather request ledger).1) := by
      intro composition hcomposition pair hpair hrecorded
      exact (hlater composition hcomposition).2 hpair (hcall.recorded.mem_iff.2 hrecorded)
    refine ⟨?_, List.pairwise_cons.2 ⟨?_, hapart⟩⟩
    · intro composition hcomposition
      rcases List.mem_cons.1 hcomposition with rfl | hcomposition
      · exact ⟨hcall.distinct, hcall.fresh⟩
      · exact ⟨(hlater composition hcomposition).1,
          (List.disjoint_append_right.1 (hrecord composition hcomposition)).1⟩
    · intro composition hcomposition
      exact List.disjoint_symm (List.disjoint_append_right.1 (hrecord composition hcomposition)).2

end Calls

/-- Calls that share a ledger apply every pair of target and preset once in all, and a call records what it
has layers for. -/
theorem gatherEach_once (ledger : Ledger) :
    (∀ earlier platform request,
      GathersOnce platform request (ledgerGathered earlier ledger)
        (platform.gather request (ledgerGathered earlier ledger)).1
        (platform.gather request (ledgerGathered earlier ledger)).2) ∧
    ∀ calls,
      (∀ composition ∈ gatherEach calls ledger,
        (applications composition).Nodup ∧ (applications composition).Disjoint ledger.applied) ∧
      (gatherEach calls ledger).Pairwise (fun a b => (applications a).Disjoint (applications b)) ∧
      (ledgerGathered calls ledger).applied.Perm
        (ledger.applied ++ (gatherEach calls ledger).flatMap applications) := by
  refine ⟨fun earlier platform request => gathersOnce_gather platform request _, fun calls => ?_⟩
  obtain ⟨honce, hapart⟩ := gatherEach_apart calls ledger
  exact ⟨honce, hapart, applied_ledgerGathered calls ledger⟩

/-- A call for a target of any namespace and name. -/
def callFor (namespaceName name : String) (flags : Flags) : Platform × Request :=
  ({}, { identity := { name, version := "8.0.0", namespaceName }, flags })

/-- Targets whose texts are alike are still different targets. The third call asks again for what the first one
applied, and for one preset more. -/
def alikeCalls : List (Platform × Request) := [
  callFor "a/b" "c" { keystore := true, leaderElection := true },
  callFor "a" "b/c" { keystore := true },
  callFor "a/b" "c" { keystore := true, shardedMetrics := true }]

theorem gatherEach_once_alike :
    (gatherEach alikeCalls Catalog.builtin.ledger).map applications =
        [[(⟨"a/b", "c"⟩, "keystore"), (⟨"a/b", "c"⟩, "cluster-monitoring"), (⟨"a/b", "c"⟩, "leader-election")],
          [(⟨"a", "b/c"⟩, "keystore")], [(⟨"a/b", "c"⟩, "metrics-sharding")]] ∧
      (gatherEach alikeCalls Catalog.builtin.ledger).Pairwise
        (fun a b => (applications a).Disjoint (applications b)) ∧
      (ledgerGathered alikeCalls Catalog.builtin.ledger).applied.Perm
        [(⟨"a/b", "c"⟩, "keystore"), (⟨"a/b", "c"⟩, "cluster-monitoring"), (⟨"a/b", "c"⟩, "leader-election"),
          (⟨"a", "b/c"⟩, "keystore"), (⟨"a/b", "c"⟩, "metrics-sharding")] := by
  have hgathered : (gatherEach alikeCalls Catalog.builtin.ledger).map applications =
      [[(⟨"a/b", "c"⟩, "keystore"), (⟨"a/b", "c"⟩, "cluster-monitoring"), (⟨"a/b", "c"⟩, "leader-election")],
        [(⟨"a", "b/c"⟩, "keystore")], [(⟨"a/b", "c"⟩, "metrics-sharding")]] := rfl
  obtain ⟨-, hcalls⟩ := gatherEach_once Catalog.builtin.ledger
  obtain ⟨-, hapart, hrecorded⟩ := hcalls alikeCalls
  refine ⟨hgathered, hapart, ?_⟩
  rw [List.flatMap_def, hgathered] at hrecorded
  exact hrecorded

end PodLayers.Proofs
