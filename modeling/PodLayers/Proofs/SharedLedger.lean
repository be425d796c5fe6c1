import PodLayers.Proofs.AskedPresets

/-!
# Compositions that share a ledger

Requests are composed one after another with one ledger. Each ends as it would on its own, whatever the
ledger records. A success leaves the presets of its own result on record and nothing else, and a failure
leaves the ledger as it was.
-/

namespace PodLayers.Proofs

/-- How a request ends with a ledger, and which ledger it leaves. -/
structure EndsAlone (platform : Platform) (request : Request) (before : Ledger)
    (result : Except Issue Assembled) (after : Ledger) : Prop where
  alone : result = platform.assemble request
  known : after.known = before.known
  committed : ∀ assembled, result = .ok assembled →
    after.applied.Perm (assembled.trail.appliedPresets.map fun key => (request.identity.target, key))
  restored : ∀ issue, result = .error issue → after = before

/-- The results of requests composed one after another. -/
def assembleEach (platform : Platform) : List Request → Ledger → List (Except Issue Assembled)
  | [], _ => []
  | request :: rest, ledger =>
    let (result, after) := platform.assembleWith request ledger
    result :: assembleEach platform rest after

def ledgerAfter (platform : Platform) : List Request → Ledger → Ledger
  | [], ledger => ledger
  | request :: rest, ledger => ledgerAfter platform rest (platform.assembleWith request ledger).2

section Calls

variable {platform : Platform} {ledger : Ledger}

lemma endsAlone_assembleWith (hknows : Knows ledger platform.catalog) (request : Request) :
    EndsAlone platform request ledger (platform.assembleWith request ledger).1
      (platform.assembleWith request ledger).2 := by
  have hcleared : Knows ledger.clear platform.catalog := hknows
  have hasked := asked_presetsGathered platform request ledger.clear
  have happlied : (presetsGathered platform request ledger.clear).ledger.applied.Perm
      ((appliedKeys (layersOf platform.catalog (platform.context request) (platform.asked request))).map
        fun key => (request.identity.target, key)) := by
    rw [← grantedLayers_eq_layersOf hcleared rfl]
    exact hasked.applied
  rw [assembleWith_eq platform request hknows]
  exact {
    alone := (assemble_eq platform request).symm
    known := by
      dsimp only
      split
      · exact hasked.known
      · rfl
    committed := fun assembled hresult => by
      have hassemble : platform.assemble request = .ok assembled := (assemble_eq platform request).trans hresult
      rw [appliedPresets_eq_appliedKeys hassemble, appliedKeys_requestLayers]
      dsimp only at hresult ⊢
      rw [hresult]
      exact happlied
    restored := fun issue hresult => by
      dsimp only at hresult ⊢
      rw [hresult] }

lemma EndsAlone.knows {request : Request} {result : Except Issue Assembled} {after : Ledger}
    (h : EndsAlone platform request ledger result after) (hknows : Knows ledger platform.catalog) :
    Knows after platform.catalog := by
  intro preset hpreset
  rw [Ledger.isKnown, h.known]
  exact hknows preset hpreset

lemma knows_ledgerAfter (hknows : Knows ledger platform.catalog) (requests : List Request) :
    Knows (ledgerAfter platform requests ledger) platform.catalog := by
  induction requests generalizing ledger with
  | nil => exact hknows
  | cons request rest ih => exact ih ((endsAlone_assembleWith hknows request).knows hknows)

lemma assembleEach_eq (hknows : Knows ledger platform.catalog) (requests : List Request) :
    assembleEach platform requests ledger = requests.map platform.assemble := by
  induction requests generalizing ledger with
  | nil => rfl
  | cons request rest ih =>
    have hcall := endsAlone_assembleWith hknows request
    rw [List.map_cons, ← hcall.alone, ← ih (hcall.knows hknows)]
    rfl

end Calls

/-- Of requests that share a ledger, each ends as it would on its own, and leaves on record what it applied
or the ledger as the requests before it left it. -/
theorem assembleEach_endsAlone {platform : Platform} {ledger : Ledger}
    (hknows : Knows ledger platform.catalog) :
    (∀ requests, assembleEach platform requests ledger = requests.map platform.assemble) ∧
      ∀ earlier request,
        EndsAlone platform request (ledgerAfter platform earlier ledger)
          (platform.assembleWith request (ledgerAfter platform earlier ledger)).1
          (platform.assembleWith request (ledgerAfter platform earlier ledger)).2 :=
  ⟨assembleEach_eq hknows,
    fun earlier request => endsAlone_assembleWith (knows_ledgerAfter hknows earlier) request⟩

/-- A ledger with a key that no preset has, and with a pair from elsewhere on record. -/
def usedLedger : Ledger where
  known := "audit" :: Catalog.builtin.ledger.known
  applied := [(⟨"default", "kibana-sample"⟩, Preset.keystoreKey), (⟨"ops", "kibana"⟩, "audit")]

def keystoreRequest : Request where
  identity := { name := "kibana-sample", version := "8.0.0" }
  flags := { keystore := true }

/-- A request that fails: the ledger knows the selected key, but the catalog has no preset for it. -/
def auditRequest : Request where
  identity := { name := "kibana", version := "8.0.0", namespaceName := "ops" }
  flags := { leaderElection := true }
  selected := ["audit"]

set_option maxRecDepth 4000 in
theorem assembleEach_endsAlone_used :
    Knows usedLedger ({} : Platform).catalog ∧
      assembleEach {} [auditRequest, keystoreRequest] usedLedger =
        [.error (.unknownPreset "audit"), ({} : Platform).assemble keystoreRequest] ∧
      ledgerAfter {} [auditRequest] usedLedger = usedLedger ∧
      (ledgerAfter {} [auditRequest, keystoreRequest] usedLedger).known = usedLedger.known ∧
      (ledgerAfter {} [auditRequest, keystoreRequest] usedLedger).applied.Perm
        [(⟨"default", "kibana-sample"⟩, Preset.keystoreKey)] := by
  have hknows : Knows usedLedger ({} : Platform).catalog := by
    intro preset hpreset
    rw [Ledger.isKnown, List.contains_iff_mem]
    exact List.mem_cons_of_mem _ (List.contains_iff_mem.1 (knows_ledger Catalog.builtin preset hpreset))
  obtain ⟨hresults, hcalls⟩ := assembleEach_endsAlone hknows
  have hrestored : ledgerAfter {} [auditRequest] usedLedger = usedLedger :=
    (hcalls [] auditRequest).restored _ rfl
  have hcall := hcalls [auditRequest] keystoreRequest
  obtain ⟨assembled, hassembled, happlied⟩ : ∃ assembled,
      (({} : Platform).assembleWith keystoreRequest (ledgerAfter {} [auditRequest] usedLedger)).1 =
        .ok assembled ∧ assembled.trail.appliedPresets = [Preset.keystoreKey] := ⟨_, rfl, rfl⟩
  have hcommitted := hcall.committed assembled hassembled
  rw [happlied] at hcommitted
  exact ⟨hknows, (hresults _).trans rfl, hrestored, hcall.known.trans (congrArg Ledger.known hrestored),
    hcommitted⟩

end PodLayers.Proofs
