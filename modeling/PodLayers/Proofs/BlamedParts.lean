import PodLayers.Proofs.DocumentPaths
import PodLayers.Proofs.TemplateParts

/-!
# Blamed parts

When an override cannot be read, the issue names a slot, which is found by reading parts of the override on
their own. The part under that name cannot be read either, with two exceptions: a specification is blamed
for a key beside it that no template has, and the resources of a malformed container are blamed when they
are null, which stands for none.
-/

namespace PodLayers.Proofs
open Entries Override

/-! ## Parts -/

/-- The lists of a specification. -/
inductive ListSection
  | initContainers
  | containers
  | volumes
deriving DecidableEq

namespace ListSection

def key : ListSection → String
  | .initContainers => "initContainers"
  | .containers => "containers"
  | .volumes => "volumes"

def rejectsList : ListSection → Value → Bool
  | .initContainers, list | .containers, list => rejects (NamedList.read Container.record.read) list
  | .volumes, list => rejects (NamedList.read Volume.record.read) list

def rejectsEntry : ListSection → Value → Bool
  | .initContainers, entry | .containers, entry => rejects Container.record.read entry
  | .volumes, entry => rejects Volume.record.read entry

/-- The slot to blame in the section; none where it is absent or can be read. -/
def blamed? : ListSection → Value → Option String
  | .initContainers, spec => blameContainers spec "initContainers"
  | .containers, spec => blameContainers spec "containers"
  | .volumes, spec => blameVolumes spec

/-- The turn of the section in the search. -/
def turn : ListSection → Nat
  | .initContainers => 0
  | .containers => 1
  | .volumes => 2

/-- The section of an override. -/
def within? (sect : ListSection) (v : Value) : Option Value :=
  (v.get? "spec").bind fun spec => spec.get? sect.key

end ListSection

/-- What a slot can name. Entries go by their names. -/
inductive Part
  | root
  | metadata
  | spec
  | list (sect : ListSection)
  | entry (sect : ListSection) (name : String)
  | resources (sect : ListSection) (name : String)
deriving DecidableEq

namespace Part

def slot : Part → String
  | .root => Issue.rootSlot
  | .metadata => "metadata"
  | .spec => "spec"
  | .list sect => "spec." ++ sect.key
  | .entry sect name => "spec." ++ sect.key ++ "[" ++ name ++ "]"
  | .resources sect name => "spec." ++ sect.key ++ "[" ++ name ++ "]" ++ ".resources"

def section? : Part → Option ListSection
  | .root | .metadata | .spec => none
  | .list sect | .entry sect _ | .resources sect _ => some sect

end Part

/-- The override has an entry of this name in the section. -/
def HasEntry (v : Value) (sect : ListSection) (name : String) (entry : Value) : Prop :=
  ∃ list, sect.within? v = some list ∧ entry ∈ list.items ∧ entryName entry = name

/-- The part is there and, on its own, does not fit the field that it fills. The override as a whole has to be
a mapping, and a field that may be absent takes null. -/
def Part.Malformed (v : Value) : Part → Prop
  | .root => v.isMapping = false ∨ rejects PodTemplate.record.read v = true
  | .metadata => ∃ metadata, v.get? "metadata" = some metadata ∧ rejects Metadata.record.read metadata = true
  | .spec => ∃ spec, v.get? "spec" = some spec ∧ rejects PodSpec.record.read spec = true
  | .list sect => ∃ list, sect.within? v = some list ∧ sect.rejectsList list = true
  | .entry sect name => ∃ entry, HasEntry v sect name entry ∧ sect.rejectsEntry entry = true
  | .resources sect name =>
    sect ≠ .volumes ∧ ∃ entry, HasEntry v sect name entry ∧ ∃ resources,
      entry.get? "resources" = some resources ∧
        rejects (Read.optional (Resources.record (ν := Value)).read) resources = true

/-- Every part of the override can be read, but it has a key that no template has. -/
structure StrayKey (v : Value) : Prop where
  stray : ∃ key, (v.get? key).isSome = true ∧ key ≠ "metadata" ∧ key ≠ "spec"
  metadata : ¬Part.metadata.Malformed v
  spec : ¬Part.spec.Malformed v

/-- A container that cannot be read has null for its resources. -/
def NullResources (v : Value) (sect : ListSection) (name : String) : Prop :=
  sect ≠ .volumes ∧ ∃ entry, HasEntry v sect name entry ∧ sect.rejectsEntry entry = true ∧
    entry.get? "resources" = some .null

/-- A part that may be blamed although it can be read, while what it belongs to cannot. -/
def Misblamed (v : Value) (part : Part) : Prop :=
  (part = .spec ∧ StrayKey v ∧ Part.root.Malformed v) ∨
    ∃ sect name, part = .resources sect name ∧ NullResources v sect name

/-! ## Slots -/

section Slots

/-- What a slot says behind the name of its section. -/
def Part.tail : Part → String
  | .root | .metadata | .spec | .list _ => ""
  | .entry _ name => "[" ++ name ++ "]"
  | .resources _ name => "[" ++ name ++ "]" ++ ".resources"

lemma slot_of_section {part : Part} {sect : ListSection} (h : part.section? = some sect) :
    part.slot = "spec." ++ sect.key ++ part.tail := by
  cases part with
  | root | metadata | spec => cases h
  | list | entry | resources =>
    obtain rfl := Option.some.inj h
    simp [Part.slot, Part.tail, String.append_assoc]

lemma section_of_slot {sect sect' : ListSection} {tail tail' : String}
    (h : "spec." ++ sect.key ++ tail = "spec." ++ sect'.key ++ tail') : sect = sect' ∧ tail = tail' := by
  have hchars : ("spec." ++ sect.key ++ tail).toList = ("spec." ++ sect'.key ++ tail').toList := by rw [h]
  cases sect <;> cases sect' <;> simp [ListSection.key, String.toList_append] at hchars
  all_goals exact ⟨rfl, String.toList_injective hchars⟩

lemma slot_ne_of_section {part part' : Part} {sect : ListSection} (h : part.section? = none)
    (h' : part'.section? = some sect) : part.slot ≠ part'.slot := by
  rw [slot_of_section h']
  intro heq
  have hchars : part.slot.toList = ("spec." ++ sect.key ++ part'.tail).toList := by rw [heq]
  cases part with
  | root | metadata | spec => simp [Part.slot, Issue.rootSlot, String.toList_append] at hchars
  | list | entry | resources => cases h

/-- The tail tells entries from their resources by its last character. -/
lemma eq_of_tail {part part' : Part} {sect : ListSection} (h : part.section? = some sect)
    (h' : part'.section? = some sect) (htail : part.tail = part'.tail) : part = part' := by
  have hchars : part.tail.toList = part'.tail.toList := by rw [htail]
  have hlast : part.tail.toList.reverse.head? = part'.tail.toList.reverse.head? := by rw [hchars]
  cases part <;> cases h <;> cases part' <;> cases h' <;>
    simp [Part.tail, String.toList_append] at hchars hlast
  case list.refl.list.refl => rfl
  case entry.refl.entry.refl => rw [String.toList_injective hchars]
  case resources.refl.resources.refl => rw [String.toList_injective hchars]

lemma slot_injective : Function.Injective Part.slot := by
  intro part part' h
  cases hpart : part.section? with
  | none =>
    cases hpart' : part'.section? with
    | none =>
      cases part <;> cases hpart <;> cases part' <;> cases hpart' <;>
        first
        | rfl
        | simp [Part.slot, Issue.rootSlot] at h
    | some sect => exact absurd h (slot_ne_of_section hpart hpart')
  | some sect =>
    cases hpart' : part'.section? with
    | none => exact absurd h.symm (slot_ne_of_section hpart' hpart)
    | some sect' =>
      rw [slot_of_section hpart, slot_of_section hpart'] at h
      obtain ⟨rfl, htail⟩ := section_of_slot h
      exact eq_of_tail hpart hpart' htail

end Slots

/-! ## Sections -/

section Sections

lemma blameSection_eq_some {α : Type} [Named α] {read : Reader Value α} {slot : Value → String} {spec : Value}
    {key found : String} (h : blameSection read slot spec key = some found) :
    ∃ list, spec.get? key = some list ∧ rejects (NamedList.read read) list = true ∧
      ((∃ entry ∈ list.items, rejects read entry = true ∧ found = slot entry) ∨ found = "spec." ++ key) := by
  unfold blameSection at h
  split at h
  · cases h
  · rename_i list hlist
    split at h
    · rename_i hrejects
      refine ⟨list, hlist, hrejects, ?_⟩
      split at h
      · rename_i entry hfind
        have hentry : rejects read entry = true := List.find?_some hfind
        exact .inl ⟨entry, List.mem_of_find?_eq_some hfind, hentry, (Option.some.inj h).symm⟩
      · exact .inr (Option.some.inj h).symm
    · cases h

lemma blameSection_eq_none_iff {α : Type} [Named α] (read : Reader Value α) (slot : Value → String)
    (spec : Value) (key : String) :
    blameSection read slot spec key = none ↔
      ∀ list, spec.get? key = some list → rejects (NamedList.read read) list = false := by
  unfold blameSection
  cases spec.get? key with
  | none => simp
  | some list =>
    cases hrejects : rejects (NamedList.read read) list with
    | false => simp [hrejects]
    | true =>
      simp only [hrejects, if_true, Option.some.injEq]
      constructor
      · intro h
        split at h <;> cases h
      · intro h
        exact absurd hrejects (by rw [h list rfl]; simp)

variable {sect : ListSection}

/-- The init containers and the containers are the same kind of section. -/
lemma rejects_of_ne (hsect : sect ≠ .volumes) :
    sect.rejectsList = rejects (NamedList.read Container.record.read) ∧
      sect.rejectsEntry = rejects Container.record.read ∧
      ∀ spec, sect.blamed? spec = blameContainers spec sect.key := by
  cases sect with
  | initContainers | containers => exact ⟨rfl, rfl, fun _ => rfl⟩
  | volumes => exact absurd rfl hsect

lemma blamed_eq_none_iff (sect : ListSection) (spec : Value) :
    sect.blamed? spec = none ↔ ∀ list, spec.get? sect.key = some list → sect.rejectsList list = false := by
  cases sect <;> exact blameSection_eq_none_iff _ _ _ _

variable {v spec : Value} {found : String}

lemma rejects_optional {α : Type} {read : Reader Value α} {node : Value} (hnull : node.isNull = false) :
    rejects (Read.optional read) node = rejects read node := by
  rw [rejects_eq, rejects_eq, optional_of_isNull hnull, complaint_map]

lemma part_of_containers (hsect : sect ≠ .volumes) (hspec : v.get? "spec" = some spec)
    (h : blameContainers spec sect.key = some found) :
    ∃ part : Part, part.slot = found ∧ part.section? = some sect ∧
      (part.Malformed v ∨ Misblamed v part) := by
  obtain ⟨hrejectsList, hrejectsEntry, -⟩ := rejects_of_ne hsect
  obtain ⟨list, hlist, hmalformed, hfound⟩ := blameSection_eq_some h
  have hwithin : sect.within? v = some list := by rw [ListSection.within?, hspec, Option.bind_some, hlist]
  rcases hfound with ⟨entry, hmem, hentry, rfl⟩ | rfl
  · have hhas : HasEntry v sect (entryName entry) entry := ⟨list, hwithin, hmem, rfl⟩
    have hrejected : sect.rejectsEntry entry = true := by rw [hrejectsEntry, hentry]
    unfold containerSlot
    split
    · rename_i hresources
      obtain ⟨resources, hheld, hresources⟩ := (Option.any_eq_true _ _).1 hresources
      refine ⟨.resources sect (entryName entry), rfl, rfl, ?_⟩
      cases hnull : resources.isNull with
      | true =>
        have hheld : entry.get? "resources" = some .null := by
          cases resources with
          | null => exact hheld
          | bool | number | text | list | mapping => cases hnull
        exact .inr (.inr ⟨sect, _, rfl, hsect, entry, hhas, hrejected, hheld⟩)
      | false =>
        exact .inl ⟨hsect, entry, hhas, resources, hheld, (rejects_optional hnull).trans hresources⟩
    · exact ⟨.entry sect (entryName entry), rfl, rfl, .inl ⟨entry, hhas, hrejected⟩⟩
  · exact ⟨.list sect, rfl, rfl, .inl ⟨list, hwithin, by rw [hrejectsList, hmalformed]⟩⟩

lemma part_of_volumes (hspec : v.get? "spec" = some spec) (h : blameVolumes spec = some found) :
    ∃ part : Part, part.slot = found ∧ part.section? = some .volumes ∧ part.Malformed v := by
  obtain ⟨list, hlist, hmalformed, hfound⟩ := blameSection_eq_some h
  have hwithin : ListSection.volumes.within? v = some list := by
    rw [ListSection.within?, hspec, Option.bind_some, ← hlist]
    rfl
  rcases hfound with ⟨entry, hmem, hentry, rfl⟩ | rfl
  · exact ⟨.entry .volumes (entryName entry), rfl, rfl, entry, ⟨list, hwithin, hmem, rfl⟩, hentry⟩
  · exact ⟨.list .volumes, rfl, rfl, list, hwithin, hmalformed⟩

lemma part_of_blamed (hspec : v.get? "spec" = some spec) (h : sect.blamed? spec = some found) :
    ∃ part : Part, part.slot = found ∧ part.section? = some sect ∧
      (part.Malformed v ∨ Misblamed v part) := by
  by_cases hsect : sect = .volumes
  · subst hsect
    obtain ⟨part, hslot, hsection, hmalformed⟩ := part_of_volumes hspec h
    exact ⟨part, hslot, hsection, .inl hmalformed⟩
  · rw [(rejects_of_ne hsect).2.2] at h
    exact part_of_containers hsect hspec h

end Sections

/-! ## The whole override -/

/-- The slot to blame in the lists of a specification; none where all of them can be read. -/
def searched? (spec : Value) : Option String :=
  (ListSection.initContainers.blamed? spec).or
    ((ListSection.containers.blamed? spec).or (ListSection.volumes.blamed? spec))

/-- The search ends with the first section that has a slot to blame. -/
lemma searched_cases (spec : Value) :
    (∃ (sect : ListSection) (found : String), sect.blamed? spec = some found ∧ searched? spec = some found ∧
      ∀ front : ListSection, front.turn < sect.turn → front.blamed? spec = none) ∨
    ((∀ sect : ListSection, sect.blamed? spec = none) ∧ searched? spec = none) := by
  unfold searched?
  cases hinit : ListSection.initContainers.blamed? spec with
  | some found =>
    refine .inl ⟨.initContainers, found, hinit, rfl, fun front hfront => ?_⟩
    simp [ListSection.turn] at hfront
  | none =>
    cases hcontainers : ListSection.containers.blamed? spec with
    | some found =>
      refine .inl ⟨.containers, found, hcontainers, rfl, fun front hfront => ?_⟩
      cases front with
      | initContainers => exact hinit
      | containers | volumes => simp [ListSection.turn] at hfront
    | none =>
      cases hvolumes : ListSection.volumes.blamed? spec with
      | some found =>
        refine .inl ⟨.volumes, found, hvolumes, rfl, fun front hfront => ?_⟩
        cases front with
        | initContainers => exact hinit
        | containers => exact hcontainers
        | volumes => simp [ListSection.turn] at hfront
      | none =>
        refine .inr ⟨fun sect => ?_, rfl⟩
        cases sect with
        | initContainers => exact hinit
        | containers => exact hcontainers
        | volumes => exact hvolumes

lemma blame_cases (v : Value) :
    (Part.metadata.Malformed v ∧ blame v = "metadata") ∨
      (¬Part.metadata.Malformed v ∧
        ((v.get? "spec" = none ∧ blame v = Issue.rootSlot) ∨
          ∃ spec, v.get? "spec" = some spec ∧ blame v = (searched? spec).getD "spec")) := by
  have hmetadata :
      (v.get? "metadata").any (rejects Metadata.record.read) = true ↔ Part.metadata.Malformed v :=
    Option.any_eq_true _ _
  unfold blame
  split
  · rename_i h
    exact .inl ⟨hmetadata.1 h, rfl⟩
  · rename_i h
    refine .inr ⟨fun hmalformed => h (hmetadata.2 hmalformed), ?_⟩
    split
    · rename_i hspec
      exact .inl ⟨hspec, rfl⟩
    · rename_i spec hspec
      refine .inr ⟨spec, hspec, ?_⟩
      rw [Option.or_assoc]
      rfl

lemma decode_eq_malformed {v : Value} {slot detail : String}
    (h : (Override.raw v).pod = .error (.malformed slot detail)) :
    (v.isMapping = false ∧ slot = Issue.rootSlot) ∨
      (v.isMapping = true ∧ slot = blame v ∧ complaint? (PodTemplate.record.read v) = some detail) := by
  have hdecode : decode v = .error (.malformed slot detail) := h
  unfold decode at hdecode
  split at hdecode
  · rename_i hmapping
    obtain ⟨rfl, -⟩ := Issue.malformed.inj (Except.error.inj hdecode)
    exact .inl ⟨by simpa using hmapping, rfl⟩
  · rename_i hmapping
    split at hdecode
    · cases hdecode
    · rename_i fault hread
      obtain ⟨rfl, rfl⟩ := Issue.malformed.inj (Except.error.inj hdecode)
      exact .inr ⟨by simpa using hmapping, rfl, by rw [hread]; rfl⟩

lemma pod_of_complaint {v : Value} {detail : String} (hmapping : v.isMapping = true)
    (h : complaint? (PodTemplate.record.read v) = some detail) :
    (Override.raw v).pod = .error (.malformed (blame v) detail) := by
  have hpod : (Override.raw v).pod = decode v := rfl
  rw [hpod, decode, hmapping]
  cases hread : PodTemplate.record.read v with
  | ok pod =>
    rw [hread] at h
    cases h
  | error fault =>
    rw [hread] at h
    obtain rfl : fault.message = detail := Option.some.inj h
    rfl

lemma optional_templateParts : ∀ p ∈ templateParts, p.required = false := by
  simp [templateParts, RecordPart.unlessEmpty, RecordPart.completed, RecordPart.needed]

lemma complaint_template (entries : List (String × Value)) :
    complaint? (PodTemplate.record.read (.mapping entries)) =
      entries.findSome? (entryComplaint PodTemplate.record) :=
  partsOf_template.complaint_ofEntries optional_templateParts entries

lemma entryComplaint_metadata (node : Value) :
    entryComplaint PodTemplate.record ("metadata", node) = complaint? (Metadata.record.read node) :=
  partsOf_template.entryComplaint_part List.mem_cons_self node

lemma entryComplaint_spec (node : Value) :
    entryComplaint PodTemplate.record ("spec", node) = complaint? (PodSpec.record.read node) :=
  partsOf_template.entryComplaint_part (List.mem_cons_of_mem _ List.mem_cons_self) node

/-- When both parts of a template can be read, only another key can be in the way. -/
lemma exists_stray {v : Value} (hv : v.Ordered) (hmapping : v.isMapping = true)
    (hrejects : rejects PodTemplate.record.read v = true) (hmetadata : ¬Part.metadata.Malformed v)
    (hspec : ¬Part.spec.Malformed v) :
    ∃ key, (v.get? key).isSome = true ∧ key ≠ "metadata" ∧ key ≠ "spec" := by
  cases v with
  | null | bool | number | text | list => cases hmapping
  | mapping entries =>
    have hnodup : (keys entries).Nodup := sorted_nodup (ordered_entries hv).1
    rw [rejects_eq, complaint_template, List.findSome?_isSome_iff] at hrejects
    obtain ⟨⟨key, node⟩, hmem, hcomplaint⟩ := hrejects
    have hfind : (Value.mapping entries).get? key = some node := find_of_mem hnodup hmem
    refine ⟨key, by rw [hfind]; rfl, ?_, ?_⟩
    · rintro rfl
      rw [entryComplaint_metadata, ← rejects_eq] at hcomplaint
      exact hmetadata ⟨node, hfind, hcomplaint⟩
    · rintro rfl
      rw [entryComplaint_spec, ← rejects_eq] at hcomplaint
      exact hspec ⟨node, hfind, hcomplaint⟩

lemma exists_blamed_part {v : Value} {slot detail : String} (hv : v.Ordered)
    (h : (Override.raw v).pod = .error (.malformed slot detail)) :
    ∃ part : Part, part.slot = slot ∧ (part.Malformed v ∨ Misblamed v part) := by
  rcases decode_eq_malformed h with ⟨hmapping, rfl⟩ | ⟨hmapping, rfl, hcomplaint⟩
  · exact ⟨.root, rfl, .inl (.inl hmapping)⟩
  have hrejects : rejects PodTemplate.record.read v = true := by
    rw [rejects_eq, hcomplaint]
    rfl
  rcases blame_cases v with ⟨hmetadata, hblame⟩ | ⟨hmetadata, ⟨-, hblame⟩ | ⟨spec, hspec, hblame⟩⟩
  · exact ⟨.metadata, hblame.symm, .inl hmetadata⟩
  · exact ⟨.root, hblame.symm, .inl (.inr hrejects)⟩
  rcases searched_cases spec with ⟨sect, found, hfound, hsearched, -⟩ | ⟨-, hsearched⟩
  · obtain ⟨part, hslot, -, hpart⟩ := part_of_blamed hspec hfound
    refine ⟨part, ?_, hpart⟩
    rw [hblame, hsearched, hslot, Option.getD_some]
  rw [hblame, hsearched, Option.getD_none]
  by_cases hmalformed : Part.spec.Malformed v
  · exact ⟨.spec, rfl, .inl hmalformed⟩
  · have hstray := exists_stray hv hmapping hrejects hmetadata hmalformed
    exact ⟨.spec, rfl, .inr (.inl ⟨rfl, ⟨hstray, hmetadata, hmalformed⟩, .inr hrejects⟩)⟩

/-- The blamed slot names one part, which cannot be read on its own, unless the specification is blamed for a
key beside it, or resources are blamed that are null. Then what cannot be read is the override as a whole,
or the container that has the resources. -/
theorem blamed_part {v : Value} {slot detail : String} (hv : v.Ordered)
    (h : (Override.raw v).pod = .error (.malformed slot detail)) :
    ∃ part : Part, part.slot = slot ∧ (∀ other : Part, other.slot = slot → other = part) ∧
      (part.Malformed v ∨ Misblamed v part) := by
  obtain ⟨part, rfl, hpart⟩ := exists_blamed_part hv h
  exact ⟨part, rfl, fun _ hother => slot_injective hother, hpart⟩

/-- An init container with a number for its image, in front of one that is fine. -/
def numberedImage : Value := .mapping [
  ("spec", .mapping [
    ("initContainers", .list [
      .mapping [("image", .number (.integer 7)), ("name", .text "setup")],
      .mapping [("name", .text "wait")]])])]

theorem blamed_part_numbered :
    numberedImage.Ordered ∧
      (Override.raw numberedImage).pod =
        .error (.malformed "spec.initContainers[setup]" "invalid type: integer `7`, expected a string") ∧
      (Part.entry .initContainers "setup").Malformed numberedImage := by
  have hordered : numberedImage.Ordered := by
    simp +decide [numberedImage, Value.Ordered, Value.OrderedEntries, Value.OrderedItems, Sorted]
  have h : (Override.raw numberedImage).pod =
      .error (.malformed "spec.initContainers[setup]" "invalid type: integer `7`, expected a string") := rfl
  obtain ⟨part, -, hunique, hpart⟩ := blamed_part hordered h
  obtain rfl : Part.entry .initContainers "setup" = part := hunique _ rfl
  rcases hpart with hmalformed | ⟨hspec, -⟩ | ⟨_, _, hresources, -⟩
  · exact ⟨hordered, h, hmalformed⟩
  · cases hspec
  · cases hresources

/-- A key that no template has, beside a specification that can be read. -/
def strayOverride : Value := .mapping [("foo", .number (.integer 1)), ("spec", .mapping [])]

/-- A container with a number for its image and null for its resources. -/
def nullOverride : Value := .mapping [
  ("spec", .mapping [
    ("containers", .list [
      .mapping [("image", .number (.integer 7)), ("name", .text "a"), ("resources", .null)]])])]

/-- Neither the specification nor the resources that are blamed here are malformed. -/
theorem blamed_part_readable :
    (strayOverride.Ordered ∧
      (∃ detail, (Override.raw strayOverride).pod = .error (.malformed "spec" detail)) ∧
      ∀ part : Part, part.slot = "spec" → ¬part.Malformed strayOverride) ∧
    (nullOverride.Ordered ∧
      (∃ detail, (Override.raw nullOverride).pod =
        .error (.malformed "spec.containers[a].resources" detail)) ∧
      ∀ part : Part, part.slot = "spec.containers[a].resources" → ¬part.Malformed nullOverride) := by
  have hstray : strayOverride.Ordered := by
    simp +decide [strayOverride, Value.Ordered, Value.OrderedEntries, Sorted]
  have hnull : nullOverride.Ordered := by
    simp +decide [nullOverride, Value.Ordered, Value.OrderedEntries, Value.OrderedItems, Sorted]
  refine ⟨⟨hstray, ⟨_, rfl⟩, ?_⟩, hnull, ⟨_, rfl⟩, ?_⟩
  · intro part hslot hmalformed
    obtain rfl : part = .spec := slot_injective hslot
    obtain ⟨spec, hspec, hrejects⟩ := hmalformed
    obtain rfl := Option.some.inj hspec
    cases hrejects
  · intro part hslot hmalformed
    obtain rfl : part = .resources .containers "a" := slot_injective hslot
    obtain ⟨-, entry, ⟨list, hlist, hentry, -⟩, resources, hresources, hrejects⟩ := hmalformed
    obtain rfl := Option.some.inj hlist
    obtain rfl := List.mem_singleton.1 hentry
    obtain rfl := Option.some.inj hresources
    cases hrejects

end PodLayers.Proofs
