import PodLayers.Proofs.AskedPresets

/-!
# The issues of a composition

A composition reports the issues that its request raises and nothing besides: a single one as it is, several
as one issue of the target that holds them in order. Its layers are laid over each other only when there
are none.
-/

namespace PodLayers.Proofs

lemma decode_eq_error {value : Value} {issue : Issue} (h : Override.decode value = .error issue) :
    ∃ slot detail, issue = .malformed slot detail := by
  unfold Override.decode at h
  split at h
  · exact ⟨_, _, (Except.error.inj h).symm⟩
  · split at h
    · cases h
    · exact ⟨_, _, (Except.error.inj h).symm⟩

lemma issueOf_eq (catalog : Catalog) (ctx : Context) :
    issueOf? catalog ctx = fun key =>
      match catalog.find? key with
      | none => some (.unknownPreset key)
      | some preset =>
        match preset.contribute ctx with
        | .ok _ => none
        | .error issue => some issue := by
  funext key
  rw [issueOf?, contribution]
  cases catalog.find? key <;> rfl

lemma overrideIssue_toList (request : Request) :
    (overrideIssue? request).toList =
      match request.userOverride with
      | some (.raw value) =>
        match Override.decode value with
        | .ok _ => []
        | .error issue => [issue]
      | _ => [] := by
  rw [overrideIssue?]
  rcases request.userOverride with _ | pod | value
  · rfl
  · rfl
  · simp only [Override.pod]
    cases Override.decode value <;> rfl

/-- A preset that has its layer contributes when it is asked for again. -/
lemma contributes_of_applied {platform : Platform} {request : Request} {key : PresetKey}
    (h : key ∈ appliedKeys (requestLayers platform request)) :
    ∃ preset fragment, platform.catalog.find? key = some preset ∧
      preset.contribute (platform.context request) = .ok fragment := by
  rw [appliedKeys_requestLayers] at h
  obtain ⟨-, fragment, hcontribution⟩ := mem_appliedKeys_layersOf.1 h
  obtain ⟨preset, hpreset, rfl, hcontribute⟩ := exists_of_contribution hcontribution
  exact ⟨preset, fragment, find_preset_iff.2 ⟨hpreset, rfl⟩, hcontribute⟩

lemma outcome_eq (target : Target) (layers : List Layer) (issues : List Issue)
    (fold : Target → List Layer → Except Issue Assembled) :
    (⟨target, layers, issues⟩ : Composition).outcome fold =
      match issues with
      | [] => fold target layers
      | [issue] => .error issue
      | issues => .error (.several target issues) := by
  rw [Composition.outcome]
  rcases issues with _ | ⟨first, _ | ⟨second, rest⟩⟩ <;> rfl

/-- A composition ends with the one issue of its request, with all of them together, or with the result of
its layers. The issues are those of unknown keys that are selected, those of the keys asked for, and that of the
override, which is that it is malformed. A preset that has its layer raises none, however often it is asked
for. -/
theorem assemble_eq_of_issues (platform : Platform) (request : Request) :
    platform.assemble request =
        (match
          (request.selected.filter fun key => !platform.catalog.contains key).map Issue.unknownPreset ++
            ((platform.catalog.presets.filter fun preset =>
                preset.isActive request.flags || request.selected.contains preset.key).flatMap
              fun preset => preset.requires ++ [preset.key]).filterMap (fun key =>
                match platform.catalog.find? key with
                | none => some (.unknownPreset key)
                | some preset =>
                  match preset.contribute (platform.context request) with
                  | .ok _ => none
                  | .error issue => some issue) ++
            (match request.userOverride with
            | some (.raw value) =>
              match Override.decode value with
              | .ok _ => []
              | .error issue => [issue]
            | _ => [])
        with
        | [] => assembleLayers request.identity.target platform.settings.workload.containerName
            (requestLayers platform request)
        | [issue] => .error issue
        | issues => .error (.several request.identity.target issues)) ∧
      (∀ value issue, Override.decode value = .error issue → ∃ slot detail, issue = .malformed slot detail) ∧
      ∀ key ∈ appliedKeys (requestLayers platform request),
        ∃ preset fragment, platform.catalog.find? key = some preset ∧
          preset.contribute (platform.context request) = .ok fragment := by
  refine ⟨?_, fun _ _ => decode_eq_error, fun _ => contributes_of_applied⟩
  rw [assemble_eq, requestOutcome, outcome_eq, requestIssues, issueOf_eq, overrideIssue_toList]
  rfl

/-- Two presets that are always on share one that fails. One of them requires a key that no preset has, and
the other fails as well. -/
def failingPlatform : Platform where
  catalog :=
    ⟨[{ key := "dashboards", requires := ["token", "alerts"], isActive := fun _ => true
        contribute := fun _ => .ok {} },
      { key := "token", contribute := fun _ => .error (.malformed "spec" "no token") },
      { key := "metrics", requires := ["token", "dashboards"], isActive := fun _ => true
        contribute := fun _ => .error (.malformed "spec" "no metrics") }], by decide⟩

def failingRequest : Request where
  identity := { name := "kibana-sample", version := "8.0.0" }
  selected := ["audit", "metrics", "traces", "audit"]
  userOverride := some (.raw (.text "kibana"))

theorem assemble_eq_of_issues_failing :
    failingPlatform.assemble failingRequest =
        .error (.several ⟨"default", "kibana-sample"⟩ [.unknownPreset "audit", .unknownPreset "traces",
          .unknownPreset "audit", .malformed "spec" "no token", .unknownPreset "alerts",
          .malformed "spec" "no token", .malformed "spec" "no metrics",
          .malformed "<root>" "expected a mapping, found a string"]) ∧
      "dashboards" ∈ appliedKeys (requestLayers failingPlatform failingRequest) ∧
      ∃ preset fragment, failingPlatform.catalog.find? "dashboards" = some preset ∧
        preset.contribute (failingPlatform.context failingRequest) = .ok fragment := by
  obtain ⟨houtcome, -, happlied⟩ := assemble_eq_of_issues failingPlatform failingRequest
  have hdashboards : "dashboards" ∈ appliedKeys (requestLayers failingPlatform failingRequest) :=
    List.mem_cons_self
  exact ⟨houtcome.trans rfl, hdashboards, happlied "dashboards" hdashboards⟩

end PodLayers.Proofs
