import Mathlib.Logic.Relation
import PodLayers.Proofs.LayerOrder

/-!
# The order of requirements

A chosen preset stands behind its requirements when it has its own turn before anything requires it.
Requirements of requirements are not asked for: a preset that comes in as a requirement can stand before its
own, or do without them. Where no requirement has requirements, all of them come first.
-/

namespace PodLayers.Proofs

/-! ## Cycles and turns -/

def Requires (catalog : Catalog) (key required : PresetKey) : Prop :=
  ∃ preset ∈ catalog.presets, preset.key = key ∧ required ∈ preset.requires

/-- No key requires itself, not even through others. -/
def AcyclicRequirements (catalog : Catalog) : Prop :=
  ∀ key, ¬Relation.TransGen (Requires catalog) key key

lemma acyclic_of_rank {catalog : Catalog} (rank : PresetKey → Nat)
    (h : ∀ preset ∈ catalog.presets, ∀ required ∈ preset.requires, rank required < rank preset.key) :
    AcyclicRequirements catalog := by
  have hstep {key required : PresetKey} (hrequires : Requires catalog key required) :
      rank required < rank key := by
    obtain ⟨preset, hpreset, rfl, hrequired⟩ := hrequires
    exact h preset hpreset required hrequired
  have hpath {key required : PresetKey} (hrequires : Relation.TransGen (Requires catalog) key required) :
      rank required < rank key := by
    induction hrequires with
    | single hrequires => exact hstep hrequires
    | tail _ hrequires ih => exact Nat.lt_trans (hstep hrequires) ih
  exact fun key hcycle => Nat.lt_irrefl _ (hpath hcycle)

/-- Every requirement of an applied preset is applied before it. -/
def RequirementsFirst (catalog : Catalog) (trail : Trail) : Prop :=
  ∀ preset ∈ catalog.presets, preset.key ∈ trail.appliedPresets →
    ∀ required ∈ preset.requires, [required, preset.key].Sublist trail.appliedPresets

/-- A chosen preset that no preset chosen before it requires. -/
def OwnTurn (platform : Platform) (request : Request) (preset : Preset) : Prop :=
  ∃ before after, platform.chosen request = before ++ preset :: after ∧
    ∀ other ∈ before, preset.key ∉ other.requires

/-- The keys asked for before a key is. -/
def askedBefore (platform : Platform) (request : Request) (key : PresetKey) : List PresetKey :=
  (platform.asked request).takeWhile fun other => other ≠ key

section Turns

variable {platform : Platform} {request : Request} {assembled : Assembled}

lemma precedes_iff (h : platform.assemble request = .ok assembled) {key : PresetKey}
    (hkey : key ∈ assembled.trail.appliedPresets) (required : PresetKey) :
    [required, key].Sublist assembled.trail.appliedPresets ↔ required ∈ askedBefore platform request key := by
  rw [appliedPresets_eq h] at hkey ⊢
  exact sublist_eraseDups_iff (List.mem_eraseDups.1 hkey)

lemma chosen_nodup (platform : Platform) (request : Request) :
    ((platform.chosen request).map Preset.key).Nodup :=
  platform.catalog.distinct.sublist (List.filter_sublist.map Preset.key)

lemma requires_subset_askedBefore {preset : Preset} (hself : preset.key ∉ preset.requires)
    (hturn : OwnTurn platform request preset) {required : PresetKey} (hrequired : required ∈ preset.requires) :
    required ∈ askedBefore platform request preset.key := by
  obtain ⟨before, after, hchosen, hbefore⟩ := hturn
  have hasked : platform.asked request =
      (before.flatMap (fun other => other.requires ++ [other.key]) ++ preset.requires) ++
        preset.key :: after.flatMap fun other => other.requires ++ [other.key] := by
    simp [Platform.asked, hchosen]
  -- earlier presets neither have this key nor require it, so its turn is the first time that it is asked for
  have hfirst : preset.key ∉ before.flatMap (fun other => other.requires ++ [other.key]) ++ preset.requires := by
    rw [List.mem_append, List.mem_flatMap]
    rintro (⟨other, hother, hkey⟩ | hkey)
    · rcases List.mem_append.1 hkey with hkey | hkey
      · exact hbefore other hother hkey
      · have hnodup := chosen_nodup platform request
        rw [hchosen, List.map_append, List.nodup_append] at hnodup
        exact hnodup.2.2 other.key (List.mem_map_of_mem hother) preset.key (by simp)
          (List.mem_singleton.1 hkey).symm
    · exact hself hkey
  rw [askedBefore, hasked, takeWhile_ne_eq hfirst _]
  exact List.mem_append_right _ hrequired

lemma chosen_of_ownTurn {preset : Preset} (hturn : OwnTurn platform request preset) :
    preset ∈ platform.chosen request := by
  obtain ⟨before, after, hchosen, -⟩ := hturn
  rw [hchosen]
  simp

lemma applied_of_asked (h : platform.assemble request = .ok assembled) {preset : Preset}
    (hchosen : preset ∈ platform.chosen request) {key : PresetKey}
    (hkey : key = preset.key ∨ key ∈ preset.requires) : key ∈ assembled.trail.appliedPresets := by
  rw [appliedPresets_eq h, List.mem_eraseDups, mem_asked]
  exact ⟨preset, hchosen, hkey⟩

end Turns

/-! ## Requirements of chosen presets -/

/-- The requirements of a preset that has its own turn stand before it, and those of any chosen preset are
applied. Before an applied key stand those keys that are asked for before it is. -/
theorem requirements_precede {platform : Platform} {request : Request} {assembled : Assembled}
    (hacyclic : AcyclicRequirements platform.catalog) (h : platform.assemble request = .ok assembled) :
    (∀ preset, OwnTurn platform request preset →
      ∀ required ∈ preset.requires, [required, preset.key].Sublist assembled.trail.appliedPresets) ∧
    (∀ preset ∈ platform.chosen request,
      ∀ required ∈ preset.requires, required ∈ assembled.trail.appliedPresets) ∧
    ∀ key ∈ assembled.trail.appliedPresets, ∀ required,
      [required, key].Sublist assembled.trail.appliedPresets ↔ required ∈ askedBefore platform request key := by
  refine ⟨fun preset hturn required hrequired => ?_,
    fun preset hchosen required hrequired => applied_of_asked h hchosen (.inr hrequired),
    fun key hkey required => precedes_iff h hkey required⟩
  have hchosen := chosen_of_ownTurn hturn
  have hself : preset.key ∉ preset.requires :=
    fun hself => hacyclic preset.key (.single ⟨preset, ((mem_chosen preset).1 hchosen).1, rfl, hself⟩)
  exact (precedes_iff h (applied_of_asked h hchosen (.inl rfl)) required).2
    (requires_subset_askedBefore hself hturn hrequired)

/-- A preset that contributes nothing of its own. -/
def linkPreset (key : PresetKey) (requires : List PresetKey) : Preset where
  key := key
  requires := requires
  contribute _ := .ok {}

/-- Dashboards require metrics, and these require a token. -/
def chainedPlatform : Platform where
  catalog := ⟨[linkPreset "dashboards" ["metrics"], linkPreset "metrics" ["token"], linkPreset "token" []],
    by decide⟩

/-- The same presets, with metrics in front of dashboards. -/
def orderedPlatform : Platform where
  catalog := ⟨[linkPreset "metrics" ["token"], linkPreset "dashboards" ["metrics"], linkPreset "token" []],
    by decide⟩

def selecting (keys : List PresetKey) : Request where
  identity := { name := "kibana-sample", version := "8.0.0" }
  selected := keys

def chainRank : PresetKey → Nat
  | "dashboards" => 2
  | "metrics" => 1
  | _ => 0

set_option maxRecDepth 4000 in
theorem requirements_precede_ordered :
    AcyclicRequirements orderedPlatform.catalog ∧
      OwnTurn orderedPlatform (selecting ["dashboards", "metrics"]) (linkPreset "dashboards" ["metrics"]) ∧
      ∃ assembled, orderedPlatform.assemble (selecting ["dashboards", "metrics"]) = .ok assembled ∧
        ["metrics", "dashboards"].Sublist assembled.trail.appliedPresets ∧
        "token" ∈ assembled.trail.appliedPresets := by
  have hacyclic : AcyclicRequirements orderedPlatform.catalog := acyclic_of_rank chainRank (by decide)
  have hturn : OwnTurn orderedPlatform (selecting ["dashboards", "metrics"])
      (linkPreset "dashboards" ["metrics"]) :=
    ⟨[linkPreset "metrics" ["token"]], [], rfl, by decide⟩
  obtain ⟨assembled, h⟩ : ∃ assembled,
      orderedPlatform.assemble (selecting ["dashboards", "metrics"]) = .ok assembled := ⟨_, rfl⟩
  obtain ⟨hfirst, happlied, -⟩ := requirements_precede hacyclic h
  exact ⟨hacyclic, hturn, assembled, h, hfirst _ hturn "metrics" (by decide),
    happlied (linkPreset "metrics" ["token"]) (List.mem_of_mem_head? rfl) "token" (by decide)⟩

lemma not_requirementsFirst_of_chain {trail : Trail} (hmetrics : "metrics" ∈ trail.appliedPresets)
    (h : ¬["token", "metrics"].Sublist trail.appliedPresets) :
    ¬RequirementsFirst chainedPlatform.catalog trail := by
  intro hfirst
  have hpreset : linkPreset "metrics" ["token"] ∈ chainedPlatform.catalog.presets :=
    List.mem_cons_of_mem _ List.mem_cons_self
  exact h (hfirst _ hpreset hmetrics "token" List.mem_cons_self)

set_option maxRecDepth 4000 in
/-- Metrics come in as a requirement of the dashboards, and their own requirement does not come first: it is
not asked for at all, or only when the turn of the metrics comes. -/
theorem chained_requirements_not_first :
    AcyclicRequirements chainedPlatform.catalog ∧
      (∃ assembled, chainedPlatform.assemble (selecting ["dashboards"]) = .ok assembled ∧
        assembled.trail.appliedPresets = ["metrics", "dashboards"] ∧
        ¬RequirementsFirst chainedPlatform.catalog assembled.trail) ∧
      ∃ assembled, chainedPlatform.assemble (selecting ["dashboards", "metrics"]) = .ok assembled ∧
        assembled.trail.appliedPresets = ["metrics", "dashboards", "token"] ∧
        ¬RequirementsFirst chainedPlatform.catalog assembled.trail := by
  refine ⟨acyclic_of_rank chainRank (by decide), ⟨_, rfl, rfl, ?_⟩, ⟨_, rfl, rfl, ?_⟩⟩
  · exact not_requirementsFirst_of_chain (by decide) (by decide)
  · exact not_requirementsFirst_of_chain (by decide) (by decide)

/-! ## Catalogs without chains -/

/-- What a preset of the catalog requires has no requirements. -/
def UnchainedRequirements (catalog : Catalog) : Prop :=
  ∀ preset ∈ catalog.presets, ∀ other ∈ catalog.presets, preset.key ∈ other.requires → preset.requires = []

/-- Without chains, all requirements come first. -/
theorem requirementsFirst_of_unchained {platform : Platform} {request : Request} {assembled : Assembled}
    (hunchained : UnchainedRequirements platform.catalog) (h : platform.assemble request = .ok assembled) :
    RequirementsFirst platform.catalog assembled.trail := by
  intro preset hpreset hkey required hrequired
  have hunrequired : ∀ other ∈ platform.catalog.presets, preset.key ∉ other.requires := by
    intro other hother hrequires
    rw [hunchained preset hpreset other hother hrequires] at hrequired
    exact absurd hrequired List.not_mem_nil
  have hturn : OwnTurn platform request preset := by
    rw [appliedPresets_eq h, List.mem_eraseDups, mem_asked] at hkey
    obtain ⟨other, hother, hsame | hrequires⟩ := hkey
    · have hcatalog := ((mem_chosen other).1 hother).1
      obtain rfl : preset = other := List.inj_on_of_nodup_map platform.catalog.distinct hpreset hcatalog hsame
      obtain ⟨before, after, hchosen⟩ := List.append_of_mem hother
      have hbefore {earlier : Preset} (hearlier : earlier ∈ before) : earlier ∈ platform.chosen request := by
        rw [hchosen]
        exact List.mem_append_left _ hearlier
      exact ⟨before, after, hchosen,
        fun earlier hearlier => hunrequired earlier ((mem_chosen earlier).1 (hbefore hearlier)).1⟩
    · exact absurd hrequires (hunrequired other ((mem_chosen other).1 hother).1)
  exact (precedes_iff h hkey required).2
    (requires_subset_askedBefore (hunrequired preset hpreset) hturn hrequired)

lemma unchained_builtin : UnchainedRequirements .builtin := by
  unfold UnchainedRequirements
  decide

/-- With the built-in presets all requirements come first. -/
theorem requirementsFirst_builtin {settings : Settings} {request : Request} {assembled : Assembled}
    (h : Platform.assemble ⟨settings, .builtin⟩ request = .ok assembled) :
    RequirementsFirst .builtin assembled.trail :=
  requirementsFirst_of_unchained unchained_builtin h

end PodLayers.Proofs
