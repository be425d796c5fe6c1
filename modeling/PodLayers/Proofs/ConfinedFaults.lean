import PodLayers.Proofs.BlamedSections
import PodLayers.Proofs.TemplateLeaves
import PodLayers.Proofs.TemplateRoundTrip

/-!
# Confined faults

Where an override can be read once a list of its specification is removed, the blame falls on that list: on
the list as a whole when it is no list or repeats a name, else on its first malformed entry or on the
resources of that entry.
-/

namespace PodLayers.Proofs
open Entries Override

/-! ## Overrides without a section -/

def withoutKey (key : String) : Value → Value
  | .mapping entries => .mapping (erase key entries)
  | other => other

/-- An override whose specification does not have a section. -/
def withoutSection (sect : ListSection) : Value → Value
  | .mapping entries =>
    .mapping (entries.map fun entry =>
      if entry.1 = "spec" then (entry.1, withoutKey sect.key entry.2) else entry)
  | other => other

/-- Every item of a list can be read, and two of them have the same name. -/
def RepeatsName {α : Type} [Named α] (read : Reader Value α) (items : List Value) : Prop :=
  ∃ entries : List α, List.Forall₂ (fun item a => read item = .ok a) items entries ∧
    ¬(entries.map Named.name).Nodup

namespace ListSection

def RepeatsName : ListSection → List Value → Prop
  | .initContainers, items | .containers, items => Proofs.RepeatsName Container.record.read items
  | .volumes, items => Proofs.RepeatsName Volume.record.read items

/-- What stands under the key of the section is no list, or one in which only a name is wrong. -/
def FailsAsWhole (sect : ListSection) (list : Value) : Prop :=
  (∀ items, list ≠ .list items) ∨ ∃ items, list = .list items ∧ sect.RepeatsName items

/-- The first of the items that cannot be read on its own. -/
def FirstRejected (sect : ListSection) (items : List Value) (entry : Value) : Prop :=
  ∃ front back, items = front ++ entry :: back ∧ (∀ other ∈ front, sect.rejectsEntry other = false) ∧
    sect.rejectsEntry entry = true

/-- A slot names a malformed entry or its resources. The resources of a container are named when nothing else
is wrong with it, and not when they are absent or can be read; a volume is named itself. -/
structure Locates (sect : ListSection) (entry : Value) (slot : String) : Prop where
  place : slot = (Part.entry sect (entryName entry)).slot ∨ slot = (Part.resources sect (entryName entry)).slot
  resources : sect ≠ .volumes → sect.rejectsEntry (withoutKey "resources" entry) = false →
    slot = (Part.resources sect (entryName entry)).slot
  elsewhere : sect ≠ .volumes →
    (∀ resources, entry.get? "resources" = some resources →
      rejects (Resources.record (ν := Value)).read resources = false) →
    slot = (Part.entry sect (entryName entry)).slot
  volume : sect = .volumes → slot = (Part.entry sect (entryName entry)).slot

/-- The slot of a malformed entry of the section. -/
def slotOf : ListSection → Value → String
  | .initContainers, entry => containerSlot "initContainers" entry
  | .containers, entry => containerSlot "containers" entry
  | .volumes, entry => entrySlot "volumes" entry

end ListSection

lemma withoutKey_leaf {v : Value} (h : v.isMapping = false) (key : String) : withoutKey key v = v := by
  cases v with
  | mapping => cases h
  | null | bool | number | text | list => rfl

/-! ## What is wrong stands under the removed key -/

section Removal

variable {ρ : Type} {record : Record Value ρ} {encode : ρ → Value} {parts : List (RecordPart ρ)}

/-- A record is read from entries when none of them gives cause and no required part is missing. -/
lemma PartsOf.complaint_eq_none_iff (h : PartsOf record encode parts) (entries : List (String × Value)) :
    complaint? (record.ofEntries entries) = none ↔
      (∀ entry ∈ entries, entryComplaint record entry = none) ∧ record.missing? entries = none := by
  rw [← List.findSome?_eq_none_iff, ← h.complaint_foldlM entries record.blank, Record.ofEntries]
  cases entries.foldlM record.visit record.blank with
  | error fault => simp [complaint?, bind, Except.bind]
  | ok draft =>
    cases hmissing : record.missing? entries with
    | none => simp [complaint?, bind, Except.bind, pure, Except.pure]
    | some field => simp [complaint?, bind, Except.bind, fail]

/-- Entries that give cause although they do not without one key give it under that key. -/
lemma PartsOf.complaint_erased (h : PartsOf record encode parts) {entries : List (String × Value)}
    (hd : (keys entries).Nodup) {key : String} (hwhole : complaint? (record.ofEntries entries) ≠ none)
    (hwithout : complaint? (record.ofEntries (erase key entries)) = none) :
    ∃ node, find? key entries = some node ∧ entryComplaint record (key, node) ≠ none := by
  obtain ⟨hfine, hmissing⟩ := (h.complaint_eq_none_iff _).1 hwithout
  have hpresent : record.missing? entries = none := by
    rw [h.missing_eq_none_iff] at hmissing ⊢
    intro p hp hrequired
    have hkept := hmissing p hp hrequired
    rw [find_erase hd] at hkept
    split at hkept
    · cases hkept
    · exact hkept
  by_contra hnone
  refine hwhole ((h.complaint_eq_none_iff _).2 ⟨?_, hpresent⟩)
  rintro ⟨k, node⟩ hmem
  by_cases hk : k = key
  · subst hk
    by_contra hcomplaint
    exact hnone ⟨node, find_of_mem hd hmem, hcomplaint⟩
  · exact hfine (k, node) (mem_erase hd hmem hk)

end Removal

lemma rejects_eq_false_iff {α : Type} (read : Reader Value α) (node : Value) :
    rejects read node = false ↔ complaint? (read node) = none := by
  rw [rejects_eq, Option.isSome_eq_false_iff, Option.isNone_iff_eq_none]

section Confinement

variable {v spec : Value} {sect : ListSection}

lemma isMapping_withoutSection (sect : ListSection) (v : Value) :
    (withoutSection sect v).isMapping = v.isMapping := by
  cases v <;> rfl

lemma complaint_eq_none_iff_pod (hmapping : v.isMapping = true) :
    complaint? (PodTemplate.record.read v) = none ↔ ∃ pod, (Override.raw v).pod = .ok pod := by
  have hpod : (Override.raw v).pod = decode v := rfl
  rw [hpod, decode, hmapping]
  cases PodTemplate.record.read v <;> simp [complaint?]

/-- Nothing is wrong outside the specification, and nothing in it without the section. -/
lemma confined_spec (hv : v.Ordered) (hspec : v.get? "spec" = some spec)
    (hrefused : complaint? (PodTemplate.record.read v) ≠ none)
    (hwithout : complaint? (PodTemplate.record.read (withoutSection sect v)) = none) :
    ¬Part.metadata.Malformed v ∧ complaint? (PodSpec.record.read spec) ≠ none ∧
      complaint? (PodSpec.record.read (withoutKey sect.key spec)) = none := by
  cases v with
  | null | bool | number | text | list => cases hspec
  | mapping entries =>
    rw [withoutSection, complaint_template, List.findSome?_eq_none_iff, List.forall_mem_map] at hwithout
    rw [complaint_template, ne_eq, List.findSome?_eq_none_iff] at hrefused
    refine ⟨?_, fun hread => hrefused ?_, ?_⟩
    · rintro ⟨metadata, hmetadata, hrejects⟩
      have hfine := hwithout ("metadata", metadata) (mem_of_find hmetadata)
      have hkey : ¬"metadata" = "spec" := by decide
      rw [if_neg hkey, entryComplaint_metadata, ← rejects_eq_false_iff, hrejects] at hfine
      cases hfine
    · rintro ⟨key, node⟩ hmem
      by_cases hkey : key = "spec"
      · subst hkey
        have hnode : (Value.mapping entries).get? "spec" = some node := find_of_mem (sorted_nodup hv.1) hmem
        obtain rfl : spec = node := Option.some.inj (hspec.symm.trans hnode)
        rw [entryComplaint_spec, hread]
      · have hfine := hwithout (key, node) hmem
        rwa [if_neg hkey] at hfine
    · have hfine := hwithout ("spec", spec) (mem_of_find hspec)
      rwa [if_pos rfl, entryComplaint_spec] at hfine

lemma refused_of_confined (hordered : spec.Ordered) (hmapping : spec.isMapping = true)
    (hrefused : complaint? (PodSpec.record.read spec) ≠ none)
    (hwithout : complaint? (PodSpec.record.read (withoutKey sect.key spec)) = none) :
    Refused spec sect ∧ ∀ other : ListSection, other ≠ sect → ¬Refused spec other := by
  obtain ⟨entries, rfl⟩ := exists_entries hmapping
  have hnodup : (keys entries).Nodup := sorted_nodup hordered.1
  constructor
  · obtain ⟨node, hnode, hcomplaint⟩ := partsOf_spec.complaint_erased hnodup hrefused hwithout
    refine ⟨node, hnode, ?_⟩
    rw [← entryComplaint_section, Option.isSome_iff_ne_none]
    exact hcomplaint
  · rintro other hother ⟨list, hlist, hrejects⟩
    have hkey : other.key ≠ sect.key := fun heq => hother (key_injective heq)
    obtain ⟨hfine, -⟩ := (partsOf_spec.complaint_eq_none_iff _).1 hwithout
    have hnone := hfine (other.key, list) (mem_erase hnodup (mem_of_find hlist) hkey)
    rw [← entryComplaint_section, hnone] at hrejects
    cases hrejects

/-- The search ends in the only section that cannot be read. -/
lemma blame_of_refused (hspec : v.get? "spec" = some spec) (hmetadata : ¬Part.metadata.Malformed v)
    (hrefused : Refused spec sect) (hothers : ∀ other : ListSection, other ≠ sect → ¬Refused spec other) :
    sect.blamed? spec = some (blame v) := by
  rcases blame_cases v with ⟨hmalformed, -⟩ | ⟨-, ⟨hnone, -⟩ | ⟨spec', hspec', hblame⟩⟩
  · exact absurd hmalformed hmetadata
  · rw [hspec] at hnone
    cases hnone
  obtain rfl : spec = spec' := Option.some.inj (hspec.symm.trans hspec')
  rcases searched_cases spec with ⟨other, found, hfound, hsearched, -⟩ | ⟨hnone, -⟩
  · have hother : other = sect := by
      by_contra hother
      rw [(not_refused_iff spec other).1 (hothers other hother)] at hfound
      cases hfound
    rw [hblame, hsearched, Option.getD_some, ← hother, hfound]
  · exact absurd hrefused ((not_refused_iff spec sect).2 (hnone sect))

end Confinement

/-! ## The list and its entries -/

lemma ordered_of_mem_items {list item : Value} (h : list.Ordered) (hitem : item ∈ list.items) :
    item.Ordered := by
  cases list with
  | list items => exact (orderedItems_iff items).1 h item hitem
  | null | bool | number | text | mapping => exact absurd hitem List.not_mem_nil

section Entries

variable {α : Type} [Named α] {read : Reader Value α} {spec list entry : Value} {sect : ListSection}

/-- A section that cannot be read is blamed through its first malformed entry, or as a whole. -/
lemma blamed_of_rejected (hlist : spec.get? sect.key = some list) (hrejects : sect.rejectsList list = true) :
    sect.blamed? spec =
      some (((list.items.find? sect.rejectsEntry).map sect.slotOf).getD (Part.list sect).slot) := by
  have hsection {β : Type} [Named β] {read : Reader Value β} {slot : Value → String} {key : String}
      (hlist : spec.get? key = some list) (hrejects : rejects (NamedList.read read) list = true) :
      blameSection read slot spec key =
        some (((list.items.find? (rejects read)).map slot).getD ("spec." ++ key)) := by
    rw [blameSection, hlist]
    simp only [hrejects, if_true]
    cases list.items.find? (rejects read) <;> rfl
  cases sect <;> exact hsection hlist hrejects

omit [Named α] in
lemma exists_items {items : List Value} (h : ∀ item ∈ items, rejects read item = false) (index : Nat) :
    ∃ entries, Read.items read index items = .ok entries ∧
      List.Forall₂ (fun item a => read item = .ok a) items entries := by
  induction items generalizing index with
  | nil => exact ⟨[], rfl, .nil⟩
  | cons item rest ih =>
    obtain ⟨hitem, hrest⟩ := List.forall_mem_cons.1 h
    obtain ⟨entries, hentries, hrel⟩ := ih hrest (index + 1)
    cases hread : read item with
    | error fault =>
      rw [rejects, hread] at hitem
      cases hitem
    | ok a =>
      refine ⟨a :: entries, ?_, .cons hread hrel⟩
      rw [Read.items, hread, hentries]
      rfl

/-- Only a repeated name is in the way of a list whose items can be read. -/
lemma repeatsName_of_rejects {items : List Value}
    (hrejects : rejects (NamedList.read read) (.list items) = true)
    (hitems : ∀ item ∈ items, rejects read item = false) : RepeatsName read items := by
  obtain ⟨entries, hentries, hrel⟩ := exists_items hitems 0
  refine ⟨entries, hrel, fun hnodup => ?_⟩
  have hlist : NamedList.ofList? entries = .ok (filed entries) := (ofList_eq_ok_iff _ _).2 ⟨hnodup, rfl⟩
  have hread : NamedList.read read (.list items) = .ok (filed entries) := by
    have hlistRead : Read.list read (.list items) = .ok entries := hentries
    rw [NamedList.read, hlistRead]
    simp [bind, Except.bind, hlist, pure, Except.pure]
  rw [rejects, hread] at hrejects
  cases hrejects

lemma not_rejects_of_repeatsName {items : List Value} (h : RepeatsName read items) :
    ∀ item ∈ items, rejects read item = false := by
  obtain ⟨entries, hrel, -⟩ := h
  intro item hitem
  induction hrel with
  | nil => cases hitem
  | cons hread _ ih =>
    rcases List.mem_cons.1 hitem with rfl | hitem
    · rw [rejects, hread]
    · exact ih hitem

lemma repeatsName_iff {items : List Value} (hrejects : sect.rejectsList (.list items) = true) :
    sect.RepeatsName items ↔ ∀ item ∈ items, sect.rejectsEntry item = false := by
  cases sect <;> exact ⟨not_rejects_of_repeatsName, repeatsName_of_rejects hrejects⟩

lemma find_eq_none_iff_failsAsWhole (hrejects : sect.rejectsList list = true) :
    list.items.find? sect.rejectsEntry = none ↔ sect.FailsAsWhole list := by
  cases list with
  | list items =>
    have hnone : (Value.list items).items.find? sect.rejectsEntry = none ↔ sect.RepeatsName items := by
      rw [List.find?_eq_none, repeatsName_iff hrejects]
      simp [Value.items]
    rw [hnone]
    constructor
    · exact fun h => .inr ⟨items, rfl, h⟩
    · rintro (hlist | ⟨items', hlist, h⟩)
      · exact absurd rfl (hlist items)
      · rwa [Value.list.inj hlist]
  | null | bool | number | text | mapping =>
    exact ⟨fun _ => .inl (by simp), fun _ => rfl⟩

lemma firstRejected_iff (items : List Value) :
    sect.FirstRejected items entry ↔ items.find? sect.rejectsEntry = some entry := by
  rw [List.find?_eq_some_iff_append, ListSection.FirstRejected]
  simp only [Bool.not_eq_true']
  constructor
  · rintro ⟨front, back, hitems, hfront, hentry⟩
    exact ⟨hentry, front, back, hitems, hfront⟩
  · rintro ⟨hentry, front, back, hitems, hfront⟩
    exact ⟨front, back, hitems, hfront, hentry⟩

lemma entryComplaint_resources (node : Value) :
    entryComplaint Container.record ("resources", node) =
      complaint? (Read.optional (Resources.record (ν := Value)).read node) := by
  have hpart : RecordPart.whenPresent "resources" Resources.record.read Resources.encode Container.resources
      (fun resources c => { c with resources }) ∈ containerParts := List.mem_of_getElem? (i := 6) rfl
  exact partsOf_container.entryComplaint_part hpart node

/-- A container that can be read without its resources has malformed ones. -/
lemma resources_of_withoutKey (hordered : entry.Ordered) (hrejects : rejects Container.record.read entry = true)
    (hwithout : rejects Container.record.read (withoutKey "resources" entry) = false) :
    ∃ resources, entry.get? "resources" = some resources ∧
      rejects (Resources.record (ν := Value)).read resources = true := by
  cases hmapping : entry.isMapping with
  | false =>
    rw [withoutKey_leaf hmapping, hrejects] at hwithout
    cases hwithout
  | true =>
    obtain ⟨entries, rfl⟩ := exists_entries hmapping
    have hrefused : complaint? (Container.record.ofEntries entries) ≠ none := by
      rw [← Option.isSome_iff_ne_none]
      exact (rejects_eq Container.record.read (.mapping entries)).symm.trans hrejects
    have haccepted : complaint? (Container.record.ofEntries (erase "resources" entries)) = none :=
      (rejects_eq_false_iff _ _).1 hwithout
    obtain ⟨resources, hresources, hcomplaint⟩ :=
      partsOf_container.complaint_erased (sorted_nodup hordered.1) hrefused haccepted
    rw [entryComplaint_resources, ← Option.isSome_iff_ne_none, ← rejects_eq] at hcomplaint
    have hnull : resources.isNull = false := by
      cases resources with
      | null => cases hcomplaint
      | bool | number | text | list | mapping => rfl
    exact ⟨resources, hresources, (rejects_optional hnull).symm.trans hcomplaint⟩

lemma locates_slotOf (hordered : entry.Ordered) (hrejects : sect.rejectsEntry entry = true) :
    sect.Locates entry (sect.slotOf entry) := by
  by_cases hsect : sect = .volumes
  · subst hsect
    exact ⟨.inl rfl, fun h => absurd rfl h, fun h => absurd rfl h, fun _ => rfl⟩
  have hslot : sect.slotOf entry = containerSlot sect.key entry := by
    cases sect with
    | initContainers | containers => rfl
    | volumes => exact absurd rfl hsect
  have hcontainer : sect.rejectsEntry = rejects Container.record.read := (rejects_of_ne hsect).2.1
  rw [hcontainer] at hrejects
  rw [hslot, containerSlot]
  by_cases hresources : (entry.get? "resources").any (rejects (Resources.record (ν := Value)).read) = true
  · rw [if_pos hresources]
    obtain ⟨resources, hheld, hmalformed⟩ := (Option.any_eq_true _ _).1 hresources
    refine ⟨.inr rfl, fun _ _ => rfl, fun _ hfine => ?_, fun h => absurd h hsect⟩
    rw [hfine resources hheld] at hmalformed
    cases hmalformed
  · rw [if_neg hresources]
    refine ⟨.inl rfl, fun _ hwithout => ?_, fun _ _ => rfl, fun h => absurd h hsect⟩
    rw [hcontainer] at hwithout
    obtain ⟨resources, hheld, hmalformed⟩ := resources_of_withoutKey hordered hrejects hwithout
    exact absurd ((Option.any_eq_true _ _).2 ⟨resources, hheld, hmalformed⟩) hresources

end Entries

/-! ## The blamed slot -/

/-- An override that could be read without one list of its specification is blamed for that list: for the list
as a whole when it is no list or only repeats a name, and else for its first malformed entry. -/
theorem confined_fault {v spec : Value} {sect : ListSection} (hv : v.Ordered)
    (hspec : v.get? "spec" = some spec) (hspecMapping : spec.isMapping = true)
    (hrefused : ∃ issue, (Override.raw v).pod = .error issue)
    (hwithout : ∃ pod, (Override.raw (withoutSection sect v)).pod = .ok pod) :
    ∃ list slot detail, sect.within? v = some list ∧
      (Override.raw v).pod = .error (.malformed slot detail) ∧
      (sect.FailsAsWhole list → slot = (Part.list sect).slot) ∧
      (¬sect.FailsAsWhole list → ∃ entry, sect.FirstRejected list.items entry ∧ sect.Locates entry slot) := by
  have hmapping : v.isMapping = true := isMapping_of_get hspec
  have hspecOrdered : spec.Ordered := ordered_of_find (ordered_entries hv).2 hspec
  have hcomplaint : complaint? (PodTemplate.record.read v) ≠ none := by
    obtain ⟨issue, hissue⟩ := hrefused
    intro hnone
    obtain ⟨pod, hpod⟩ := (complaint_eq_none_iff_pod hmapping).1 hnone
    rw [hissue] at hpod
    cases hpod
  have haccepted : complaint? (PodTemplate.record.read (withoutSection sect v)) = none :=
    (complaint_eq_none_iff_pod ((isMapping_withoutSection sect v).trans hmapping)).2 hwithout
  obtain ⟨hmetadata, hspecRefused, hspecAccepted⟩ := confined_spec hv hspec hcomplaint haccepted
  obtain ⟨hsection, hothers⟩ := refused_of_confined hspecOrdered hspecMapping hspecRefused hspecAccepted
  have hblamed := blame_of_refused hspec hmetadata hsection hothers
  obtain ⟨list, hlist, hrejects⟩ := hsection
  obtain ⟨detail, hdetail⟩ := Option.ne_none_iff_exists'.1 hcomplaint
  have hslot : ((list.items.find? sect.rejectsEntry).map sect.slotOf).getD (Part.list sect).slot = blame v :=
    Option.some.inj ((blamed_of_rejected hlist hrejects).symm.trans hblamed)
  have hwithin : sect.within? v = some list := by rw [ListSection.within?, hspec, Option.bind_some, hlist]
  refine ⟨list, blame v, detail, hwithin, pod_of_complaint hmapping hdetail, fun hwhole => ?_, fun hwhole => ?_⟩
  · rw [← hslot, (find_eq_none_iff_failsAsWhole hrejects).2 hwhole, Option.map_none, Option.getD_none]
  · obtain ⟨entry, hentry⟩ := Option.ne_none_iff_exists'.1 (mt (find_eq_none_iff_failsAsWhole hrejects).1 hwhole)
    have hlistOrdered : list.Ordered := ordered_of_find (ordered_entries hspecOrdered).2 hlist
    have hordered : entry.Ordered := ordered_of_mem_items hlistOrdered (List.mem_of_find?_eq_some hentry)
    have hmalformed : sect.rejectsEntry entry = true := List.find?_some hentry
    rw [hentry, Option.map_some, Option.getD_some] at hslot
    exact ⟨entry, (firstRejected_iff _).2 hentry, hslot ▸ locates_slotOf hordered hmalformed⟩

/-- An init container whose only fault is a quantity. -/
def unquantified : Value := .mapping [
  ("name", .text "setup"),
  ("resources", .mapping [("limits", .mapping [("memory", .text "lots")])])]

/-- Nothing is wrong outside the init containers. -/
def unquantifiedOverride : Value := .mapping [
  ("metadata", .mapping [("labels", .mapping [("team", .text "search")])]),
  ("spec", .mapping [
    ("containers", .list [.mapping [("name", .text "kibana")]]),
    ("initContainers", .list [
      .mapping [("name", .text "wait")],
      unquantified,
      .mapping [("image", .number (.integer 7)), ("name", .text "late")]])])]

theorem confined_fault_unquantified :
    unquantifiedOverride.Ordered ∧ (∃ issue, (Override.raw unquantifiedOverride).pod = .error issue) ∧
      (∃ pod, (Override.raw (withoutSection .initContainers unquantifiedOverride)).pod = .ok pod) ∧
      ∃ detail, (Override.raw unquantifiedOverride).pod =
        .error (.malformed "spec.initContainers[setup].resources" detail) := by
  have hordered : unquantifiedOverride.Ordered := by
    simp +decide [unquantifiedOverride, unquantified, Value.Ordered, Value.OrderedEntries, Value.OrderedItems,
      Sorted]
  have hrefused : ∃ issue, (Override.raw unquantifiedOverride).pod = .error issue := ⟨_, rfl⟩
  have hwithout : ∃ pod, (Override.raw (withoutSection .initContainers unquantifiedOverride)).pod = .ok pod :=
    ⟨_, rfl⟩
  obtain ⟨list, slot, detail, hlist, hpod, -, hentry⟩ := confined_fault hordered rfl rfl hrefused hwithout
  obtain rfl := Option.some.inj hlist
  obtain ⟨entry, hfirst, hlocates⟩ := hentry fun hwhole => by
    rw [← find_eq_none_iff_failsAsWhole rfl] at hwhole
    cases hwhole
  obtain rfl : unquantified = entry := Option.some.inj ((firstRejected_iff _).1 hfirst)
  have hslot : slot = "spec.initContainers[setup].resources" := hlocates.resources (by decide) rfl
  exact ⟨hordered, hrefused, hwithout, detail, hslot ▸ hpod⟩

end PodLayers.Proofs
