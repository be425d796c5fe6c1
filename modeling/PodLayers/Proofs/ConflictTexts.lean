import PodLayers.Proofs.TemplateMonoid

/-!
# What a conflict shows

A conflict shows the two identities in short. Images are shown in full, so two different ones look different.
Of the sources of a volume only the first is shown, by its kind and at most a name, so different sources may look
alike.
-/

namespace PodLayers.Proofs
open Joins Identifies

/-! ## Sources in short -/

/-- What is shown of the sources of a volume. -/
inductive Headline
  | secret (name : String)
  | configMap (name : String)
  | emptyDir
  | projected
  | nothing
deriving DecidableEq, Repr

def Headline.text : Headline → String
  | .secret name => "secret/" ++ name
  | .configMap name => "configMap/" ++ name
  | .emptyDir => "emptyDir"
  | .projected => "projected"
  | .nothing => "<none>"

/-- The first source of a volume, by its kind and the name of what it refers to. -/
def headline (sources : VolumeSources) : Headline :=
  match sources.secret, sources.configMap, sources.emptyDir, sources.projected with
  | some secret, _, _, _ => .secret secret.secretName
  | none, some configMap, _, _ => .configMap configMap.name
  | none, none, some _, _ => .emptyDir
  | none, none, none, some _ => .projected
  | none, none, none, none => .nothing

lemma describe_eq_text (sources : VolumeSources) : sources.describe = (headline sources).text := by
  obtain ⟨secret, configMap, emptyDir, projected⟩ := sources
  cases secret <;> cases configMap <;> cases emptyDir <;> cases projected <;> rfl

lemma text_injective : Function.Injective Headline.text := by
  intro a b h
  have hchars := congrArg String.toList h
  cases a <;> cases b <;> simp [Headline.text] at hchars ⊢
  case secret.secret => exact String.toList_injective hchars
  case configMap.configMap => exact String.toList_injective hchars

namespace IdentityValue

def isImage : IdentityValue → Bool
  | .image _ => true
  | .sources _ => false

/-- Two identities are sources of volumes with the same headline. -/
def LookAlike (held given : IdentityValue) : Prop :=
  ∃ sources others, held = .sources sources ∧ given = .sources others ∧ headline sources = headline others

lemma describe_eq_iff {held given : IdentityValue} (hkind : held.isImage = given.isImage) (hne : held ≠ given) :
    held.describe = given.describe ↔ held.LookAlike given := by
  cases held with
  | image text =>
    cases given with
    | sources others => cases hkind
    | image other =>
      have htext : text ≠ other := fun e => hne (congrArg image e)
      exact ⟨fun h => absurd h htext, fun ⟨_, _, himage, _⟩ => by cases himage⟩
  | sources block =>
    cases given with
    | image other => cases hkind
    | sources others =>
      rw [describe, describe, describe_eq_text, describe_eq_text, text_injective.eq_iff]
      constructor
      · exact fun h => ⟨block, others, rfl, rfl, h⟩
      · rintro ⟨_, _, ⟨⟩, ⟨⟩, h⟩
        exact h

end IdentityValue

/-! ## Clashes -/

lemma replacing_eq_some {slot : Slot} {held given : Option IdentityValue} {clash : Clash}
    (h : replacing? slot held given = some clash) :
    ∃ lower higher, held = some lower ∧ given = some higher ∧ lower ≠ higher ∧
      clash = ⟨slot.path, lower.describe, higher.describe⟩ := by
  unfold replacing? at h
  split at h
  · rename_i lower higher
    rw [Option.ite_none_left_eq_some, Slot.replacing, Option.ite_none_left_eq_some] at h
    exact ⟨lower, higher, rfl, rfl, h.1, (Option.some.inj h.2.2).symm⟩
  · cases h

section Lists

variable {α : Type} [Named α] [Layered α] [Joins α] [Identifies α] {slot : Slot} {clash : Clash}

/-- A list clashes at one of its entries, with what has been reached in front of it. -/
lemma overlayAll_clash_eq_some {list : NamedList α} {items : List α}
    (h : (NamedList.overlayAll slot list items).clash = some clash) :
    ∃ before a after, items = before ++ a :: after ∧
      entryClash? slot (joinAll list before) a = some clash := by
  induction items generalizing list with
  | nil => cases h
  | cons a rest ih =>
    rw [NamedList.overlayAll, andThen_clash] at h
    cases hentry : (NamedList.overlayEntry slot list a).clash with
    | some first =>
      rw [hentry, Option.some_or] at h
      exact ⟨[], a, rest, rfl, by rw [← overlayEntry_clash_eq]; exact hentry.trans h⟩
    | none =>
      rw [hentry, Option.none_or, overlayEntry_value hentry] at h
      obtain ⟨before, b, after, rfl, hclash⟩ := ih h
      exact ⟨a :: before, b, after, rfl, hclash⟩

/-- The identities of a clash. In a coherent list they are what the two lists have under the name. -/
lemma listOverlay_clash_eq_some {image : Bool}
    (hkind : ∀ (a : α) (value : IdentityValue), identity? a = some value → value.isImage = image)
    {lower higher : NamedList α} (h : (Layered.overlay slot lower higher).clash = some clash) :
    ∃ name held given, clash =
        ⟨((slot.entry name).field (field α)).path, IdentityValue.describe held, IdentityValue.describe given⟩ ∧
      held ≠ given ∧ held.isImage = given.isImage ∧
      (higher.Coherent → heldUnder lower name = some held ∧ heldUnder higher name = some given) := by
  obtain ⟨before, a, after, hitems, hentry⟩ := overlayAll_clash_eq_some h
  obtain ⟨held, given, hheld, hgiven, hne, rfl⟩ := replacing_eq_some hentry
  refine ⟨Named.name a, held, given, rfl, hne, ?_, fun hcoherent => ?_⟩
  · obtain ⟨b, -, hb⟩ := Option.bind_eq_some_iff.1 hheld
    rw [hkind b held hb, hkind a given hgiven]
  · have hdistinct : (higher.toList.map Named.name).Nodup := by
      rw [names_toList hcoherent]
      exact hcoherent.1
    have hnew : (before.filter fun b => Named.name b = Named.name a) = [] := by
      rw [hitems, List.map_append, List.map_cons, List.nodup_append] at hdistinct
      rw [List.filter_eq_nil_iff]
      intro b hb hname
      exact hdistinct.2.2 _ (List.mem_map_of_mem hb) _ List.mem_cons_self (of_decide_eq_true hname)
    rw [heldUnder, get_joinAll, hnew] at hheld
    have ha : a ∈ higher.toList := hitems ▸ List.mem_append_right before List.mem_cons_self
    exact ⟨hheld, (heldUnder_name hcoherent ha).trans hgiven⟩

end Lists

lemma isImage_container (c : Container) (value : IdentityValue) (h : identity? c = some value) :
    value.isImage = true := by
  obtain ⟨text, -, rfl⟩ := Option.map_eq_some_iff.1 h
  rfl

lemma isImage_volume (volume : Volume) (value : IdentityValue) (h : identity? volume = some value) :
    value.isImage = false := by
  obtain ⟨sources, -, rfl⟩ := Option.map_eq_some_iff.1 h
  rfl

/-- The identities of a clash between two templates, and their place. -/
lemma exists_place_of_clash {origin : Origin} {lower higher : PodTemplate} {clash : Clash}
    (h : mergeAs origin lower higher = .error clash) :
    ∃ (place : Place) (held given : IdentityValue),
      clash = ⟨place.path, held.describe, given.describe⟩ ∧ held ≠ given ∧ held.isImage = given.isImage ∧
      (CoherentPod higher → place.held? lower = some held ∧ place.held? higher = some given) := by
  have hpod : (lower.overlay (Slot.root origin) higher).clash = some clash := (toExcept_eq_error_iff _ _).1 h
  have hspec : (PodSpec.overlay ((Slot.root origin).field "spec") lower.spec higher.spec).clash = some clash :=
    hpod
  rw [specOverlay_clash, Option.or_eq_some_iff, Option.or_eq_some_iff] at hspec
  rcases hspec with hinit | ⟨-, hcontainers | ⟨-, hvolumes⟩⟩
  · obtain ⟨name, held, given, hclash, hne, hkind, hheld⟩ := listOverlay_clash_eq_some isImage_container hinit
    rw [entry_field] at hclash
    exact ⟨.initContainer name, held, given, hclash, hne, hkind, fun hpod => hheld hpod.initContainers⟩
  · obtain ⟨name, held, given, hclash, hne, hkind, hheld⟩ :=
      listOverlay_clash_eq_some isImage_container hcontainers
    rw [entry_field] at hclash
    exact ⟨.container name, held, given, hclash, hne, hkind, fun hpod => hheld hpod.containers⟩
  · obtain ⟨name, held, given, hclash, hne, hkind, hheld⟩ := listOverlay_clash_eq_some isImage_volume hvolumes
    rw [entry_field] at hclash
    exact ⟨.volume name, held, given, hclash, hne, hkind, fun hpod => hheld hpod.volumes⟩

/-- A conflict is between two different identities of one place. Its two texts are the same exactly when both
are sources of volumes whose first sources are of one kind and, where a name is shown, of one name. -/
theorem conflict_texts {origin : Origin} {lower higher : PodTemplate} {clash : Clash}
    (h : mergeAs origin lower higher = .error clash) :
    ∃ (place : Place) (held given : IdentityValue),
      clash = ⟨place.path, held.describe, given.describe⟩ ∧ held ≠ given ∧
      (CoherentPod higher → place.held? lower = some held ∧ place.held? higher = some given) ∧
      (clash.lower = clash.higher ↔ held.LookAlike given) := by
  obtain ⟨place, held, given, rfl, hne, hkind, hheld⟩ := exists_place_of_clash h
  exact ⟨place, held, given, rfl, hne, hheld, held.describe_eq_iff hkind hne⟩

/-- A template with one volume. -/
def volumeTemplate (sources : VolumeSources) : PodTemplate where
  spec := { volumes := .ofList [{ name := "data", sources }] }

lemma coherentPod_volumeTemplate (sources : VolumeSources) : CoherentPod (volumeTemplate sources) :=
  coherentPod_ofList [] [] [_] rfl rfl rfl fun _ h => absurd h List.not_mem_nil

/-- A secret in front of scratch space. -/
def keySources : VolumeSources where
  secret := some { secretName := "keys" }
  emptyDir := some {}

def tokenSources : VolumeSources where
  secret := some { secretName := "tokens", optional := some true }

theorem conflict_texts_secrets :
    mergeAs .defaults (volumeTemplate keySources) (volumeTemplate tokenSources) =
        .error ⟨"spec.volumes[data].source", "secret/keys", "secret/tokens"⟩ ∧
      CoherentPod (volumeTemplate tokenSources) ∧
      ∃ place held given, Place.path place = "spec.volumes[data].source" ∧ held ≠ given ∧
        place.held? (volumeTemplate keySources) = some held ∧
        place.held? (volumeTemplate tokenSources) = some given ∧ ¬held.LookAlike given := by
  have hclash : mergeAs .defaults (volumeTemplate keySources) (volumeTemplate tokenSources) =
      .error ⟨"spec.volumes[data].source", "secret/keys", "secret/tokens"⟩ := rfl
  have hcoherent := coherentPod_volumeTemplate tokenSources
  obtain ⟨place, held, given, hshown, hne, hheld, halike⟩ := conflict_texts hclash
  obtain ⟨hlower, hhigher⟩ := hheld hcoherent
  have hpath : place.path = "spec.volumes[data].source" := (congrArg Clash.slot hshown).symm
  exact ⟨hclash, hcoherent, place, held, given, hpath, hne, hlower, hhigher, halike.not.1 (by decide)⟩

/-- Scratch space on disk and in memory show alike, and so do a secret and an optional secret of its name. -/
theorem conflict_texts_alike :
    (mergeAs .defaults (volumeTemplate { emptyDir := some {} })
        (volumeTemplate { emptyDir := some { medium := some "Memory" } }) =
      .error ⟨"spec.volumes[data].source", "emptyDir", "emptyDir"⟩) ∧
    mergeAs .defaults (volumeTemplate { secret := some { secretName := "keys" } })
        (volumeTemplate { secret := some { secretName := "keys", optional := some true } }) =
      .error ⟨"spec.volumes[data].source", "secret/keys", "secret/keys"⟩ := ⟨rfl, rfl⟩

end PodLayers.Proofs
