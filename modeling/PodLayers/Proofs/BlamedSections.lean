import PodLayers.Proofs.BlamedParts

/-!
# Blamed sections

The message about an override comes from its first fault in key order, the slot from a search through the
lists of the specification in an order of its own. Where an issue names a slot in one of these lists, the
other lists may be taken away without a change to the slot. The message stays too, unless init containers
are blamed while the containers, which stand in front of them, are malformed: then it is about these.
-/

namespace PodLayers.Proofs
open Entries Override

/-! ## One section -/

/-- A key of a specification that stays when only one of its lists does. -/
def staysWith (sect : ListSection) (key : String) : Bool :=
  key == sect.key || !(["initContainers", "containers", "volumes"].contains key)

/-- A specification without its lists, apart from one section. -/
def onlySection (sect : ListSection) : Value → Value
  | .mapping entries => .mapping (entries.filter fun entry => staysWith sect entry.1)
  | other => other

/-- An override in whose specification the other lists are removed. -/
def narrowed (sect : ListSection) : Value → Value
  | .mapping entries =>
    .mapping (entries.map fun entry =>
      if entry.1 = "spec" then (entry.1, onlySection sect entry.2) else entry)
  | other => other

/-- A slot names the section, one of its entries, or something in an entry. -/
def InSection (sect : ListSection) (slot : String) : Prop :=
  ∃ part : Part, part.slot = slot ∧ part.section? = some sect

/-- The specification has the section, and it cannot be read. -/
def Refused (spec : Value) (sect : ListSection) : Prop :=
  ∃ list, spec.get? sect.key = some list ∧ sect.rejectsList list = true

section Keys

lemma key_injective : Function.Injective ListSection.key := by
  intro sect sect' h
  cases sect <;> cases sect' <;> first | rfl | simp [ListSection.key] at h

lemma staysWith_eq_false_iff (sect : ListSection) (key : String) :
    staysWith sect key = false ↔ ∃ other : ListSection, other ≠ sect ∧ other.key = key := by
  have hkeys : ["initContainers", "containers", "volumes"].contains key = true ↔
      ∃ other : ListSection, other.key = key := by
    constructor
    · intro h
      rcases (by simpa using h : key = "initContainers" ∨ key = "containers" ∨ key = "volumes") with
        rfl | rfl | rfl
      · exact ⟨.initContainers, rfl⟩
      · exact ⟨.containers, rfl⟩
      · exact ⟨.volumes, rfl⟩
    · rintro ⟨other, rfl⟩
      cases other <;> decide
  rw [staysWith, Bool.or_eq_false_iff, Bool.not_eq_false', hkeys, beq_eq_false_iff_ne]
  constructor
  · rintro ⟨hne, other, rfl⟩
    exact ⟨other, fun heq => hne (heq ▸ rfl), rfl⟩
  · rintro ⟨other, hne, rfl⟩
    exact ⟨fun heq => hne (key_injective heq), other, rfl⟩

lemma staysWith_key (sect : ListSection) : staysWith sect sect.key = true := by
  simp [staysWith]

lemma get_onlySection {spec : Value} (hmapping : spec.isMapping = true) (sect : ListSection) (key : String) :
    (onlySection sect spec).get? key = if staysWith sect key then spec.get? key else none := by
  cases spec with
  | mapping entries => exact find_filter_key _ _ _
  | null | bool | number | text | list => cases hmapping

lemma isMapping_onlySection (sect : ListSection) (spec : Value) :
    (onlySection sect spec).isMapping = spec.isMapping := by
  cases spec <;> rfl

lemma get_narrowed {v : Value} (hmapping : v.isMapping = true) (sect : ListSection) (key : String) :
    (narrowed sect v).get? key =
      if key = "spec" then (v.get? key).map (onlySection sect) else v.get? key := by
  cases v with
  | mapping entries => exact find_map_key _ _ _ _
  | null | bool | number | text | list => cases hmapping

lemma get_spec_narrowed {v spec : Value} (hmapping : v.isMapping = true) (hspec : v.get? "spec" = some spec)
    (sect : ListSection) : (narrowed sect v).get? "spec" = some (onlySection sect spec) := by
  rw [get_narrowed hmapping, if_pos rfl, hspec, Option.map_some]

lemma isMapping_narrowed (sect : ListSection) (v : Value) : (narrowed sect v).isMapping = v.isMapping := by
  cases v <;> rfl

end Keys

/-! ## Slots -/

section Slots

variable {sect : ListSection} {v spec : Value} {slot : String}

lemma blamed_congr {spec spec' : Value} (h : spec.get? sect.key = spec'.get? sect.key) :
    sect.blamed? spec = sect.blamed? spec' := by
  cases sect <;> simp only [ListSection.key] at h <;>
    simp only [ListSection.blamed?, blameContainers, blameVolumes, blameSection, h]

lemma blamed_of_absent (h : spec.get? sect.key = none) : sect.blamed? spec = none := by
  rw [blamed_eq_none_iff]
  intro list hlist
  rw [h] at hlist
  cases hlist

lemma not_refused_iff (spec : Value) (sect : ListSection) :
    ¬Refused spec sect ↔ sect.blamed? spec = none := by
  rw [blamed_eq_none_iff, Refused]
  simp

lemma blamed_onlySection (hmapping : spec.isMapping = true) (sect other : ListSection) :
    other.blamed? (onlySection sect spec) = if other = sect then sect.blamed? spec else none := by
  have hget := get_onlySection hmapping sect other.key
  by_cases hother : other = sect
  · subst hother
    rw [if_pos rfl]
    exact blamed_congr (by rw [hget, if_pos (staysWith_key other)])
  · have hgone : staysWith sect other.key = false := (staysWith_eq_false_iff _ _).2 ⟨other, hother, rfl⟩
    rw [if_neg hother]
    exact blamed_of_absent (by rw [hget, hgone]; rfl)

/-- Key order and search order differ in the containers, which are decoded before the init containers and
searched after them. -/
lemma turn_of_key_lt {front sect : ListSection} (h : front.key < sect.key) :
    front.turn < sect.turn ∨ (sect = .initContainers ∧ front = .containers) := by
  cases front <;> cases sect <;> first | exact absurd h (by decide) | decide

/-- The slot in a section comes from the search in it. Of the sections in front of it in key order only the
containers may be malformed too. -/
lemma blamed_of_inSection (hspec : v.get? "spec" = some spec) (hslot : InSection sect (blame v)) :
    ¬Part.metadata.Malformed v ∧ sect.blamed? spec = some (blame v) ∧
      ∀ front : ListSection, front.key < sect.key →
        Refused spec front → sect = .initContainers ∧ front = .containers := by
  obtain ⟨part, hpart, hsection⟩ := hslot
  have hnamed {other : Part} (hother : other.slot = blame v) : other.section? = some sect := by
    rw [slot_injective (hother.trans hpart.symm), hsection]
  rcases blame_cases v with ⟨-, hblame⟩ | ⟨hmetadata, ⟨hnone, -⟩ | ⟨spec', hspec', hblame⟩⟩
  · cases hnamed (show Part.metadata.slot = blame v from hblame.symm)
  · rw [hspec] at hnone
    cases hnone
  obtain rfl : spec = spec' := Option.some.inj (hspec.symm.trans hspec')
  rcases searched_cases spec with ⟨other, found, hfound, hsearched, hfront⟩ | ⟨-, hsearched⟩
  · rw [hsearched, Option.getD_some] at hblame
    obtain ⟨blamed, hslot, hother, -⟩ := part_of_blamed hspec hfound
    obtain rfl : other = sect := Option.some.inj (hother.symm.trans (hnamed (hslot.trans hblame.symm)))
    refine ⟨hmetadata, hblame ▸ hfound, fun front hlt hrefused => ?_⟩
    rcases turn_of_key_lt hlt with hturn | hcontainers
    · exact absurd hrefused ((not_refused_iff _ _).2 (hfront front hturn))
    · exact hcontainers
  · rw [hsearched] at hblame
    cases hnamed (show Part.spec.slot = blame v from hblame.symm)

lemma malformed_metadata_narrowed (hmapping : v.isMapping = true) (sect : ListSection) :
    Part.metadata.Malformed (narrowed sect v) ↔ Part.metadata.Malformed v := by
  have hget : (narrowed sect v).get? "metadata" = v.get? "metadata" := by
    rw [get_narrowed hmapping, if_neg (by decide)]
  simp only [Part.Malformed, hget]

/-- The slot in the section is found again when the other lists are gone. -/
lemma blame_narrowed (hmapping : v.isMapping = true) (hspec : v.get? "spec" = some spec)
    (hspecMapping : spec.isMapping = true) (hmetadata : ¬Part.metadata.Malformed v)
    (hblamed : sect.blamed? spec = some slot) : blame (narrowed sect v) = slot := by
  have hget := get_spec_narrowed hmapping hspec sect
  rcases blame_cases (narrowed sect v) with ⟨hmalformed, -⟩ | ⟨-, ⟨hnone, -⟩ | ⟨only, honly, hblame⟩⟩
  · exact absurd ((malformed_metadata_narrowed hmapping sect).1 hmalformed) hmetadata
  · rw [hget] at hnone
    cases hnone
  · obtain rfl := Option.some.inj (hget.symm.trans honly)
    rw [hblame, searched?, blamed_onlySection hspecMapping, blamed_onlySection hspecMapping,
      blamed_onlySection hspecMapping, hblamed]
    cases sect <;> rfl

end Slots

/-! ## Messages -/

section Messages

/-- Items may be dropped that have no finding or come after a kept item with one. -/
lemma findSome_filter {entries : List (String × Value)} (hsorted : Sorted entries) {stays : String → Bool}
    {finding : String × Value → Option String} {first : String × Value} (hmem : first ∈ entries)
    (hstays : stays first.1 = true) (hfirst : (finding first).isSome = true)
    (hdropped : ∀ entry ∈ entries, stays entry.1 = false → finding entry = none ∨ first.1 < entry.1) :
    (entries.filter fun entry => stays entry.1).findSome? finding = entries.findSome? finding := by
  induction entries with
  | nil => rfl
  | cons entry rest ih =>
    obtain ⟨hbelow, hrest⟩ := List.pairwise_cons.1 hsorted
    have hrestDropped := fun entry hentry => hdropped entry (List.mem_cons_of_mem _ hentry)
    rw [List.filter_cons, List.findSome?_cons]
    cases hentry : stays entry.1 with
    | true =>
      rw [if_pos rfl, List.findSome?_cons]
      cases hfinding : finding entry with
      | some found => rfl
      | none =>
        rcases List.mem_cons.1 hmem with rfl | hmem
        · rw [hfinding] at hfirst
          cases hfirst
        · exact ih hrest hmem hrestDropped
    | false =>
      have hmem : first ∈ rest := by
        rcases List.mem_cons.1 hmem with rfl | hmem
        · rw [hstays] at hentry
          cases hentry
        · exact hmem
      have hfinding : finding entry = none := by
        rcases hdropped entry List.mem_cons_self hentry with hnone | hlt
        · exact hnone
        · exact absurd (hbelow first hmem) (String.lt_asymm hlt)
      rw [if_neg (by simp), hfinding]
      exact ih hrest hmem hrestDropped

lemma optional_specParts : ∀ p ∈ specParts, p.required = false := by
  simp [specParts, RecordPart.unlessEmpty, RecordPart.whenPresent]

lemma complaint_spec (entries : List (String × Value)) :
    complaint? (PodSpec.record.read (.mapping entries)) =
      entries.findSome? (entryComplaint PodSpec.record) :=
  partsOf_spec.complaint_ofEntries optional_specParts entries

lemma entryComplaint_section (sect : ListSection) (list : Value) :
    (entryComplaint PodSpec.record (sect.key, list)).isSome = sect.rejectsList list := by
  have hpart {p : RecordPart PodSpec} (hp : p ∈ specParts) :
      (entryComplaint PodSpec.record (p.name, list)).isSome = rejects p.read list := by
    rw [partsOf_spec.entryComplaint_part hp, rejects_eq]
  cases sect with
  | initContainers => exact hpart List.mem_cons_self
  | containers => exact hpart (List.mem_cons_of_mem _ List.mem_cons_self)
  | volumes => exact hpart (List.mem_cons_of_mem _ (List.mem_cons_of_mem _ List.mem_cons_self))

variable {sect : ListSection} {v spec : Value}

lemma complaint_of_refused (hmapping : spec.isMapping = true) (h : Refused spec sect) :
    (complaint? (PodSpec.record.read spec)).isSome = true := by
  obtain ⟨list, hlist, hrejects⟩ := h
  cases spec with
  | null | bool | number | text | list => cases hmapping
  | mapping entries =>
    rw [complaint_spec, List.findSome?_isSome_iff]
    exact ⟨(sect.key, list), mem_of_find hlist, (entryComplaint_section sect list).trans hrejects⟩

lemma refused_onlySection (hmapping : spec.isMapping = true) (h : Refused spec sect) :
    Refused (onlySection sect spec) sect := by
  obtain ⟨list, hlist, hrejects⟩ := h
  refine ⟨list, ?_, hrejects⟩
  rw [get_onlySection hmapping, if_pos (staysWith_key sect), hlist]

/-- A malformed section that no malformed one comes before decides the message together with the keys that
are no sections. -/
lemma complaint_onlySection (hordered : spec.Ordered) (h : Refused spec sect)
    (hbefore : ∀ other : ListSection, other.key < sect.key → ¬Refused spec other) :
    complaint? (PodSpec.record.read (onlySection sect spec)) = complaint? (PodSpec.record.read spec) := by
  cases spec with
  | null | bool | number | text | list => rfl
  | mapping entries =>
    have hsorted : Sorted entries := (ordered_entries hordered).1
    obtain ⟨list, hlist, hrejects⟩ := h
    rw [onlySection, complaint_spec, complaint_spec]
    refine findSome_filter hsorted (mem_of_find hlist) (staysWith_key sect)
      ((entryComplaint_section sect list).trans hrejects) ?_
    rintro ⟨key, node⟩ hmem hgone
    obtain ⟨other, hother, rfl⟩ := (staysWith_eq_false_iff _ _).1 hgone
    by_cases hrefused : Refused (.mapping entries) other
    · have hne : sect.key ≠ other.key := fun heq => hother (key_injective heq.symm)
      exact .inr (Std.lt_of_le_of_ne (String.not_lt.1 fun hlt => hbefore other hlt hrefused) hne)
    · have hfind : (Value.mapping entries).get? other.key = some node :=
        find_of_mem (sorted_nodup hsorted) hmem
      have hfine : other.rejectsList node = false := by
        by_contra hrejected
        exact hrefused ⟨node, hfind, by simpa using hrejected⟩
      rw [← entryComplaint_section] at hfine
      exact .inl (by simpa using hfine)

/-- An override is refused with the same message when its specification is. -/
lemma complaint_narrowed (hordered : v.Ordered) (hspec : v.get? "spec" = some spec)
    (h : complaint? (PodSpec.record.read (onlySection sect spec)) = complaint? (PodSpec.record.read spec)) :
    complaint? (PodTemplate.record.read (narrowed sect v)) = complaint? (PodTemplate.record.read v) := by
  cases v with
  | null | bool | number | text | list => rfl
  | mapping entries =>
    rw [narrowed, complaint_template, complaint_template, List.findSome?_map]
    refine findSome_congr fun entry hentry => ?_
    obtain ⟨key, node⟩ := entry
    rw [Function.comp_apply]
    by_cases hkey : key = "spec"
    · subst hkey
      have hnode : (Value.mapping entries).get? "spec" = some node :=
        find_of_mem (sorted_nodup (ordered_entries hordered).1) hentry
      obtain rfl : spec = node := Option.some.inj (hspec.symm.trans hnode)
      rw [if_pos rfl, entryComplaint_spec, entryComplaint_spec, h]
    · rw [if_neg hkey]

lemma complaint_of_spec (hmapping : v.isMapping = true) (hspec : v.get? "spec" = some spec)
    (h : (complaint? (PodSpec.record.read spec)).isSome = true) :
    (complaint? (PodTemplate.record.read v)).isSome = true := by
  cases v with
  | null | bool | number | text | list => cases hmapping
  | mapping entries =>
    rw [complaint_template, List.findSome?_isSome_iff]
    exact ⟨("spec", spec), mem_of_find hspec, (congrArg Option.isSome (entryComplaint_spec spec)).trans h⟩

end Messages

/-! ## Issues -/

section Issues

variable {sect : ListSection} {v spec : Value} {slot detail : String}

/-- Only the message can change when the other lists are removed. -/
lemma pod_narrowed (hmapping : v.isMapping = true) (hspec : v.get? "spec" = some spec)
    (hspecMapping : spec.isMapping = true) (hmetadata : ¬Part.metadata.Malformed v)
    (hblamed : sect.blamed? spec = some slot)
    (hcomplaint : complaint? (PodTemplate.record.read (narrowed sect v)) = some detail) :
    (Override.raw (narrowed sect v)).pod = .error (.malformed slot detail) := by
  rw [← blame_narrowed hmapping hspec hspecMapping hmetadata hblamed]
  exact pod_of_complaint ((isMapping_narrowed sect v).trans hmapping) hcomplaint

lemma exists_pod_narrowed (hmapping : v.isMapping = true) (hspec : v.get? "spec" = some spec)
    (hspecMapping : spec.isMapping = true) (hmetadata : ¬Part.metadata.Malformed v)
    (hblamed : sect.blamed? spec = some slot) (hrefused : Refused spec sect) :
    ∃ detail, (Override.raw (narrowed sect v)).pod = .error (.malformed slot detail) := by
  have honly : (onlySection sect spec).isMapping = true := by rw [isMapping_onlySection, hspecMapping]
  have hrefuses := complaint_of_refused honly (refused_onlySection hspecMapping hrefused)
  have hsome := complaint_of_spec ((isMapping_narrowed sect v).trans hmapping)
    (get_spec_narrowed hmapping hspec sect) hrefuses
  obtain ⟨detail, hdetail⟩ := Option.isSome_iff_exists.1 hsome
  exact ⟨detail, pod_narrowed hmapping hspec hspecMapping hmetadata hblamed hdetail⟩

lemma exists_blamed_of_refused (hrefused : Refused spec sect) : ∃ slot, sect.blamed? spec = some slot := by
  rw [← Option.isSome_iff_exists, Option.isSome_iff_ne_none]
  exact fun hnone => (not_refused_iff spec sect).2 hnone hrefused

end Issues

/-- When an issue names a slot in one list of the specification, the override without the other lists is
malformed in the same slot, with the same message unless init containers are blamed and the containers are
malformed too. Then the message is the one about the override with the containers alone. -/
theorem blamed_section {v spec : Value} {sect : ListSection} {slot detail : String} (hv : v.Ordered)
    (hspec : v.get? "spec" = some spec) (hspecMapping : spec.isMapping = true) (hslot : InSection sect slot)
    (h : (Override.raw v).pod = .error (.malformed slot detail)) :
    (∃ found, (Override.raw (narrowed sect v)).pod = .error (.malformed slot found)) ∧
      (¬(sect = .initContainers ∧ Refused spec .containers) →
        (Override.raw (narrowed sect v)).pod = .error (.malformed slot detail)) ∧
      (sect = .initContainers ∧ Refused spec .containers →
        ∃ other, InSection .containers other ∧
          (Override.raw (narrowed .containers v)).pod = .error (.malformed other detail)) := by
  rcases decode_eq_malformed h with ⟨hmapping, -⟩ | ⟨hmapping, rfl, hcomplaint⟩
  · have hnone : v.get? "spec" = none := by
      cases v with
      | mapping => cases hmapping
      | null | bool | number | text | list => rfl
    rw [hspec] at hnone
    cases hnone
  have hspecOrdered : spec.Ordered := ordered_of_find (ordered_entries hv).2 hspec
  obtain ⟨hmetadata, hblamed, hfront⟩ := blamed_of_inSection hspec hslot
  have hrefused : Refused spec sect := by
    by_contra hfine
    rw [not_refused_iff, hblamed] at hfine
    cases hfine
  have hmessage {other : ListSection} (hother : Refused spec other)
      (hbefore : ∀ front : ListSection, front.key < other.key → ¬Refused spec front) :
      complaint? (PodTemplate.record.read (narrowed other v)) = some detail :=
    (complaint_narrowed hv hspec (complaint_onlySection hspecOrdered hother hbefore)).trans hcomplaint
  refine ⟨exists_pod_narrowed hmapping hspec hspecMapping hmetadata hblamed hrefused, fun hfine => ?_, ?_⟩
  · refine pod_narrowed hmapping hspec hspecMapping hmetadata hblamed (hmessage hrefused ?_)
    intro front hlt hrefusedFront
    obtain ⟨rfl, rfl⟩ := hfront front hlt hrefusedFront
    exact hfine ⟨rfl, hrefusedFront⟩
  · rintro ⟨-, hcontainers⟩
    obtain ⟨other, hother⟩ := exists_blamed_of_refused hcontainers
    obtain ⟨part, hpart, hsection, -⟩ := part_of_blamed hspec hother
    refine ⟨other, ⟨part, hpart, hsection⟩, ?_⟩
    refine pod_narrowed hmapping hspec hspecMapping hmetadata hother (hmessage hcontainers ?_)
    intro front hlt
    cases front <;> exact absurd hlt (by decide)

/-- A malformed container in front of a key that no specification has and of a malformed volume. -/
def severalFaults : Value := .mapping [
  ("spec", .mapping [
    ("containers", .list [.mapping [("image", .number (.integer 7)), ("name", .text "a")]]),
    ("hostNetwork", .bool true),
    ("volumes", .list [.mapping [("name", .text "data"), ("secret", .text "oops")]])])]

theorem blamed_section_several :
    severalFaults.Ordered ∧ InSection .containers "spec.containers[a]" ∧
      (Override.raw severalFaults).pod =
        .error (.malformed "spec.containers[a]" "invalid type: integer `7`, expected a string") ∧
      (Override.raw (narrowed .containers severalFaults)).pod =
        .error (.malformed "spec.containers[a]" "invalid type: integer `7`, expected a string") := by
  have hordered : severalFaults.Ordered := by
    simp +decide [severalFaults, Value.Ordered, Value.OrderedEntries, Value.OrderedItems, Sorted]
  have hslot : InSection .containers "spec.containers[a]" := ⟨.entry .containers "a", rfl, rfl⟩
  have h : (Override.raw severalFaults).pod =
      .error (.malformed "spec.containers[a]" "invalid type: integer `7`, expected a string") := rfl
  obtain ⟨-, hsame, -⟩ := blamed_section hordered rfl rfl hslot h
  refine ⟨hordered, hslot, h, hsame ?_⟩
  rintro ⟨hsect, -⟩
  cases hsect

/-- A malformed init container and a malformed container. -/
def crossedFaults : Value := .mapping [
  ("spec", .mapping [
    ("containers", .list [.mapping [("image", .number (.integer 7)), ("name", .text "a")]]),
    ("initContainers", .list [.mapping [("command", .text "x"), ("name", .text "b")]])])]

/-- The init container is blamed, with the message about the container. -/
theorem blamed_section_crossed :
    crossedFaults.Ordered ∧ InSection .initContainers "spec.initContainers[b]" ∧
      (Override.raw crossedFaults).pod =
        .error (.malformed "spec.initContainers[b]" "invalid type: integer `7`, expected a string") ∧
      (Override.raw (narrowed .initContainers crossedFaults)).pod ≠
        .error (.malformed "spec.initContainers[b]" "invalid type: integer `7`, expected a string") := by
  have hordered : crossedFaults.Ordered := by
    simp +decide [crossedFaults, Value.Ordered, Value.OrderedEntries, Value.OrderedItems, Sorted]
  have halone : (Override.raw (narrowed .initContainers crossedFaults)).pod =
      .error (.malformed "spec.initContainers[b]" "invalid type: string \"x\", expected a sequence") := rfl
  refine ⟨hordered, ⟨.entry .initContainers "b", rfl, rfl⟩, rfl, ?_⟩
  rw [halone]
  intro hsame
  obtain ⟨-, hdetail⟩ := Issue.malformed.inj (Except.error.inj hsame)
  exact absurd hdetail (by decide)

end PodLayers.Proofs
