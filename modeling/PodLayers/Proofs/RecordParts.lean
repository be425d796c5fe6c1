import Mathlib.Data.List.Nodup
import PodLayers.Pod.Decode
import PodLayers.Proofs.CoherentLists
import PodLayers.Proofs.ValuePaths

/-!
# Records part by part

A part of a record is a field together with the way it is written. Where a record consists of parts that are
set independently of each other, reading it from entries and writing it are both described by what happens
under the name of each part.
-/

namespace PodLayers.Proofs
open Entries

/-- Entries are read one by one, each under its key. -/
lemma entries_rel {ν α : Type} {read : Reader ν α} {nodes : List (String × ν)} {entries : List (String × α)}
    (h : Read.entries read nodes = .ok entries) :
    keys entries = keys nodes ∧
      ∀ key, Option.Rel (fun node a => read node = .ok a) (find? key nodes) (find? key entries) := by
  induction nodes generalizing entries with
  | nil =>
    obtain rfl : [] = entries := Except.ok.inj h
    exact ⟨rfl, fun _ => .none⟩
  | cons entry rest ih =>
    obtain ⟨k, node⟩ := entry
    rw [Read.entries, bind_eq_ok_iff] at h
    obtain ⟨a, ha, h⟩ := h
    rw [bind_eq_ok_iff] at h
    obtain ⟨others, hothers, h⟩ := h
    obtain rfl : (k, a) :: others = entries := Except.ok.inj h
    obtain ⟨hkeys, hrel⟩ := ih hothers
    refine ⟨congrArg (k :: ·) hkeys, fun key => ?_⟩
    rw [find_cons, find_cons]
    by_cases hkey : k = key
    · rw [if_pos hkey, if_pos hkey]
      exact .some ((below_eq_ok_iff _ _ _).1 ha)
    · rw [if_neg hkey, if_neg hkey]
      exact hrel key

/-- A field of a record and the value that shows its content; without one the field is left out. -/
structure RecordPart (ρ : Type) where
  Content : Type
  name : String
  required : Bool
  read : Reader Value Content
  shown : Content → Option Value
  get : ρ → Content
  set : Content → ρ → ρ

namespace RecordPart

variable {ρ α : Type}

/-- A part that must be present. -/
def needed (name : String) (read : Reader Value α) (write : α → Value) (get : ρ → α) (set : α → ρ → ρ) :
    RecordPart ρ where
  Content := α
  name := name
  required := true
  read := read
  shown a := some (write a)
  get := get
  set := set

/-- A part that may be absent and is always written. -/
def completed (name : String) (read : Reader Value α) (write : α → Value) (get : ρ → α)
    (set : α → ρ → ρ) : RecordPart ρ :=
  { needed name read write get set with required := false }

/-- A part that is written when it is there. -/
def whenPresent (name : String) (read : Reader Value α) (write : α → Value) (get : ρ → Option α)
    (set : Option α → ρ → ρ) : RecordPart ρ where
  Content := Option α
  name := name
  required := false
  read := Read.optional read
  shown := Option.map write
  get := get
  set := set

/-- A part that is written unless it is empty. -/
def unlessEmpty (name : String) (read : Reader Value α) (write : α → Value) (isEmpty : α → Bool)
    (get : ρ → α) (set : α → ρ → ρ) : RecordPart ρ where
  Content := α
  name := name
  required := false
  read := read
  shown a := if isEmpty a then none else some (write a)
  get := get
  set := set

def field (p : RecordPart ρ) : Field Value ρ := Field.ofReader p.required p.name p.read p.set

def entry (p : RecordPart ρ) (x : ρ) : Value.Written := (p.shown (p.get x)).map (Prod.mk p.name)

@[simp]
lemma entry_needed (name : String) (read : Reader Value α) (write : α → Value) (get : ρ → α)
    (set : α → ρ → ρ) (x : ρ) :
    (needed name read write get set).entry x = Value.always name (write (get x)) := rfl

@[simp]
lemma entry_completed (name : String) (read : Reader Value α) (write : α → Value) (get : ρ → α)
    (set : α → ρ → ρ) (x : ρ) :
    (completed name read write get set).entry x = Value.always name (write (get x)) := rfl

@[simp]
lemma entry_whenPresent (name : String) (read : Reader Value α) (write : α → Value) (get : ρ → Option α)
    (set : Option α → ρ → ρ) (x : ρ) :
    (whenPresent name read write get set).entry x = Value.ifPresent name write (get x) :=
  Option.map_map _ _ _

@[simp]
lemma entry_unlessEmpty (name : String) (read : Reader Value α) (write : α → Value) (isEmpty : α → Bool)
    (get : ρ → α) (set : α → ρ → ρ) (x : ρ) :
    (unlessEmpty name read write isEmpty get set).entry x =
      Value.omitIf name (isEmpty (get x)) (write (get x)) := by
  cases hempty : isEmpty (get x) <;> simp [entry, unlessEmpty, Value.omitIf, hempty]

/-- What stands under the name of the part in a written record. -/
def node (p : RecordPart ρ) (x : ρ) : Option Value := (p.shown (p.get x)).map Value.arranged

/-- The content after an entry that may be missing. -/
def Turns (p : RecordPart ρ) (draft : ρ) (node : Option Value) (x : ρ) : Prop :=
  match node with
  | some v => p.read v = .ok (p.get x)
  | none => p.get x = p.get draft

end RecordPart

/-- A record that is read and written part by part. -/
structure PartsOf {ρ : Type} (record : Record Value ρ) (encode : ρ → Value) (parts : List (RecordPart ρ)) :
    Prop where
  fields : record.fields = parts.map RecordPart.field
  encode_eq : ∀ x, encode x = Value.ofFields (parts.map fun p => p.entry x)
  nodup : (parts.map RecordPart.name).Nodup
  get_set : ∀ p ∈ parts, ∀ a x, p.get (p.set a x) = a
  get_set_other : ∀ p ∈ parts, ∀ q ∈ parts, p.name ≠ q.name → ∀ a x, q.get (p.set a x) = q.get x
  ext : ∀ x y, (∀ p ∈ parts, p.get x = p.get y) → x = y

namespace PartsOf

variable {ρ : Type} {record : Record Value ρ} {encode : ρ → Value} {parts : List (RecordPart ρ)}

lemma eq_of_name (h : PartsOf record encode parts) {p q : RecordPart ρ} (hp : p ∈ parts) (hq : q ∈ parts)
    (hname : p.name = q.name) : p = q := List.inj_on_of_nodup_map h.nodup hp hq hname

/-! ## Reading -/

lemma field_eq (h : PartsOf record encode parts) (key : String) :
    record.field? key = (parts.find? fun p => p.name == key).map RecordPart.field := by
  rw [Record.field?, h.fields, List.find?_map]
  rfl

lemma visit_eq_ok_iff (h : PartsOf record encode parts) (draft next : ρ) (entry : String × Value) :
    record.visit draft entry = .ok next ↔
      ∃ p ∈ parts, p.name = entry.1 ∧ ∃ a, p.read entry.2 = .ok a ∧ p.set a draft = next := by
  rw [Record.visit, h.field_eq]
  cases hfind : parts.find? fun p => p.name == entry.1 with
  | none =>
    have hunknown : ¬∃ p ∈ parts, p.name = entry.1 := by simpa using List.find?_eq_none.1 hfind
    simp only [Option.map_none, below_eq_ok_iff, fail, reduceCtorEq, false_iff]
    rintro ⟨p, hp, hname, -⟩
    exact hunknown ⟨p, hp, hname⟩
  | some p =>
    have hp : p ∈ parts := List.mem_of_find?_eq_some hfind
    have hname : p.name = entry.1 := by simpa using List.find?_some hfind
    simp only [Option.map_some, below_eq_ok_iff, RecordPart.field, Field.ofReader, map_eq_ok_iff]
    constructor
    · rintro ⟨a, ha, rfl⟩
      exact ⟨p, hp, hname, a, ha, rfl⟩
    · rintro ⟨q, hq, hqname, hset⟩
      obtain rfl : q = p := h.eq_of_name hq hp (hqname.trans hname.symm)
      exact hset

/-- What one entry changes, and what it leaves alone. -/
lemma turns_cons (h : PartsOf record encode parts) {p : RecordPart ρ} (hp : p ∈ parts) {v : Value}
    {rest : List (String × Value)} (hnew : p.name ∉ keys rest) (draft x : ρ) :
    (∃ a, p.read v = .ok a ∧ ∀ q ∈ parts, q.Turns (p.set a draft) (find? q.name rest) x) ↔
      ∀ q ∈ parts, q.Turns draft (find? q.name ((p.name, v) :: rest)) x := by
  have hnone : find? p.name rest = none := (find_eq_none_iff _ _).2 hnew
  have hother {q : RecordPart ρ} (hq : q ∈ parts) (hne : ¬p.name = q.name) (a : p.Content) :
      q.Turns (p.set a draft) (find? q.name rest) x ↔
        q.Turns draft (find? q.name ((p.name, v) :: rest)) x := by
    rw [find_cons, if_neg hne]
    cases find? q.name rest with
    | none => rw [RecordPart.Turns, RecordPart.Turns, h.get_set_other p hp q hq hne]
    | some node => rfl
  constructor
  · rintro ⟨a, ha, hturns⟩ q hq
    by_cases hname : p.name = q.name
    · obtain rfl : p = q := h.eq_of_name hp hq hname
      have hget : p.get x = a := by
        have hself := hturns p hp
        rw [hnone] at hself
        exact hself.trans (h.get_set p hp a draft)
      rw [find_cons, if_pos rfl, RecordPart.Turns, ha, hget]
    · exact (hother hq hname a).1 (hturns q hq)
  · intro hturns
    have hself : p.read v = .ok (p.get x) := by
      have hself := hturns p hp
      rwa [find_cons, if_pos rfl] at hself
    refine ⟨p.get x, hself, fun q hq => ?_⟩
    by_cases hname : p.name = q.name
    · obtain rfl : p = q := h.eq_of_name hp hq hname
      rw [hnone]
      exact (h.get_set p hp _ draft).symm
    · exact (hother hq hname _).2 (hturns q hq)

lemma foldlM_visit_eq_ok_iff (h : PartsOf record encode parts) {entries : List (String × Value)}
    (hd : (keys entries).Nodup) (draft x : ρ) :
    entries.foldlM record.visit draft = .ok x ↔
      (∀ key ∈ keys entries, ∃ p ∈ parts, p.name = key) ∧
        ∀ p ∈ parts, p.Turns draft (find? p.name entries) x := by
  induction entries generalizing draft with
  | nil =>
    constructor
    · intro hdraft
      obtain rfl : draft = x := Except.ok.inj hdraft
      exact ⟨fun _ hkey => absurd hkey List.not_mem_nil, fun _ _ => rfl⟩
    · rintro ⟨-, hturns⟩
      exact congrArg Except.ok (h.ext draft x fun p hp => (hturns p hp).symm)
  | cons entry rest ih =>
    obtain ⟨key, v⟩ := entry
    obtain ⟨hkey, hrest⟩ : key ∉ keys rest ∧ (keys rest).Nodup := by simpa [keys] using hd
    have hkeys : keys ((key, v) :: rest) = key :: keys rest := rfl
    rw [List.foldlM_cons, bind_eq_ok_iff, hkeys, List.forall_mem_cons]
    simp only [h.visit_eq_ok_iff, ih hrest]
    -- the key does not come again, so no later entry touches what this one sets
    constructor
    · rintro ⟨_, ⟨p, hp, rfl, a, ha, rfl⟩, hknown, hturns⟩
      exact ⟨⟨⟨p, hp, rfl⟩, hknown⟩, (h.turns_cons hp hkey draft x).1 ⟨a, ha, hturns⟩⟩
    · rintro ⟨⟨⟨p, hp, rfl⟩, hknown⟩, hturns⟩
      obtain ⟨a, ha, hrest⟩ := (h.turns_cons hp hkey draft x).2 hturns
      exact ⟨p.set a draft, ⟨p, hp, rfl, a, ha, rfl⟩, hknown, hrest⟩

lemma missing_eq_none_iff (h : PartsOf record encode parts) (entries : List (String × Value)) :
    record.missing? entries = none ↔
      ∀ p ∈ parts, p.required = true → (find? p.name entries).isSome := by
  have hforall : record.missing? entries = none ↔
      ∀ p ∈ parts, p.required = true → find? p.name entries ≠ none := by
    rw [Record.missing?, h.fields]
    simp [RecordPart.field, Field.ofReader]
  simp only [hforall, Option.isSome_iff_ne_none]

/-- A record is read from entries when every key names a part, every part gets its content from the entry
under its name, and only parts that are not required go without. -/
lemma ofEntries_eq_ok_iff (h : PartsOf record encode parts) {entries : List (String × Value)}
    (hd : (keys entries).Nodup) (x : ρ) :
    record.ofEntries entries = .ok x ↔
      (∀ key ∈ keys entries, ∃ p ∈ parts, p.name = key) ∧
        (∀ p ∈ parts, p.Turns record.blank (find? p.name entries) x) ∧
        ∀ p ∈ parts, p.required = true → (find? p.name entries).isSome := by
  rw [← and_assoc, ← h.foldlM_visit_eq_ok_iff hd, ← h.missing_eq_none_iff, Record.ofEntries,
    bind_eq_ok_iff]
  cases hmissing : record.missing? entries with
  | none =>
    constructor
    · rintro ⟨draft, hdraft, hx⟩
      obtain rfl : draft = x := Except.ok.inj hx
      exact ⟨hdraft, rfl⟩
    · rintro ⟨hx, -⟩
      exact ⟨x, hx, rfl⟩
  | some field =>
    constructor
    · rintro ⟨draft, -, hfail⟩
      cases hfail
    · rintro ⟨-, hnone⟩
      cases hnone

/-! ## Writing -/

lemma sublist_keys_written (parts : List (RecordPart ρ)) (x : ρ) :
    (keys ((parts.map fun p => p.entry x).filterMap id)).Sublist (parts.map RecordPart.name) := by
  induction parts with
  | nil => exact List.Sublist.slnil
  | cons p rest ih =>
    rw [List.map_cons, List.map_cons, RecordPart.entry]
    cases p.shown (p.get x) with
    | none => exact ih.cons p.name
    | some v => exact ih.cons_cons p.name

lemma find_written {parts : List (RecordPart ρ)} (hd : (parts.map RecordPart.name).Nodup) (x : ρ)
    {p : RecordPart ρ} (hp : p ∈ parts) :
    find? p.name ((parts.map fun p => p.entry x).filterMap id) = p.shown (p.get x) := by
  induction parts with
  | nil => exact absurd hp List.not_mem_nil
  | cons q rest ih =>
    obtain ⟨hq, hrest⟩ : q.name ∉ rest.map RecordPart.name ∧ (rest.map RecordPart.name).Nodup := by
      simpa using hd
    rw [List.map_cons, RecordPart.entry]
    rcases List.mem_cons.1 hp with rfl | hp
    · cases hshown : p.shown (p.get x) with
      | none =>
        refine (find_eq_none_iff _ _).2 fun hmem => hq ?_
        exact (sublist_keys_written rest x).subset hmem
      | some v => exact if_pos rfl
    · have hne : ¬q.name = p.name := by
        intro heq
        exact hq (heq ▸ List.mem_map_of_mem hp)
      cases q.shown (q.get x) with
      | none => exact ih hrest hp
      | some v =>
        rw [← ih hrest hp]
        exact if_neg hne

/-- The entries of a written record, in key order. -/
def entriesOf (parts : List (RecordPart ρ)) (x : ρ) : List (String × Value) :=
  Entries.ofList (((parts.map fun p => p.entry x).filterMap id).map fun entry =>
    (entry.1, entry.2.arranged))

lemma arranged_encode (h : PartsOf record encode parts) (x : ρ) :
    (encode x).arranged = .mapping (entriesOf parts x) := by
  rw [h.encode_eq, Value.ofFields, arranged_mapping, entriesOf]

lemma nodup_keys_written (h : PartsOf record encode parts) (x : ρ) :
    (keys ((parts.map fun p => p.entry x).filterMap id)).Nodup :=
  h.nodup.sublist (sublist_keys_written parts x)

lemma find_entriesOf (h : PartsOf record encode parts) {p : RecordPart ρ} (hp : p ∈ parts) (x : ρ) :
    find? p.name (entriesOf parts x) = p.node x := by
  rw [entriesOf, find_arranged (h.nodup_keys_written x), find_written h.nodup x hp, RecordPart.node]

lemma mem_keys_entriesOf (h : PartsOf record encode parts) {x : ρ} {key : String}
    (hkey : key ∈ keys (entriesOf parts x)) : ∃ p ∈ parts, p.name = key := by
  rw [← find_isSome_iff, entriesOf, find_arranged (h.nodup_keys_written x), Option.isSome_map,
    find_isSome_iff] at hkey
  exact List.mem_map.1 ((sublist_keys_written parts x).subset hkey)

end PartsOf

/-! ## Complaints -/

/-- What the user is told when something cannot be read. -/
def complaint? {α : Type} : Except (Fault Value) α → Option String
  | .ok _ => none
  | .error fault => some fault.message

lemma complaint_below {α : Type} (key : String) (x : Except (Fault Value) α) :
    complaint? (below key x) = complaint? x := by
  cases x <;> rfl

lemma complaint_map {α β : Type} (f : α → β) (x : Except (Fault Value) α) :
    complaint? (x.map f) = complaint? x := by
  cases x <;> rfl

lemma rejects_eq {α : Type} (read : Reader Value α) (node : Value) :
    Override.rejects read node = (complaint? (read node)).isSome := by
  unfold Override.rejects
  cases read node <;> rfl

/-- What an entry gives cause to complain of. -/
def entryComplaint {ρ : Type} (record : Record Value ρ) (entry : String × Value) : Option String :=
  complaint? (record.visit record.blank entry)

namespace PartsOf

variable {ρ : Type} {record : Record Value ρ} {encode : ρ → Value} {parts : List (RecordPart ρ)}

/-- Whether an entry can be read does not depend on the entries in front of it. -/
lemma complaint_visit (h : PartsOf record encode parts) (draft : ρ) (entry : String × Value) :
    complaint? (record.visit draft entry) = entryComplaint record entry := by
  rw [entryComplaint, Record.visit, Record.visit, h.field_eq]
  cases parts.find? fun p => p.name == entry.1 with
  | none => rfl
  | some p =>
    simp only [Option.map_some, complaint_below, RecordPart.field, Field.ofReader, complaint_map]

lemma entryComplaint_part (h : PartsOf record encode parts) {p : RecordPart ρ} (hp : p ∈ parts) (v : Value) :
    entryComplaint record (p.name, v) = complaint? (p.read v) := by
  have hfind : parts.find? (fun q => q.name == p.name) = some p := by
    cases hfind : parts.find? fun q => q.name == p.name with
    | none => exact absurd (List.find?_eq_none.1 hfind p hp) (by simp)
    | some q =>
      have hname : q.name = p.name := by simpa using List.find?_some hfind
      rw [h.eq_of_name (List.mem_of_find?_eq_some hfind) hp hname]
  rw [entryComplaint, Record.visit, h.field_eq, hfind]
  simp only [Option.map_some, complaint_below, RecordPart.field, Field.ofReader, complaint_map]

lemma complaint_foldlM (h : PartsOf record encode parts) (entries : List (String × Value)) (draft : ρ) :
    complaint? (entries.foldlM record.visit draft) = entries.findSome? (entryComplaint record) := by
  induction entries generalizing draft with
  | nil => rfl
  | cons entry rest ih =>
    rw [List.foldlM_cons, List.findSome?_cons, ← h.complaint_visit draft entry]
    cases record.visit draft entry with
    | error fault => rfl
    | ok next => exact ih next

/-- A record without required parts is refused for the first entry that gives cause. -/
lemma complaint_ofEntries (h : PartsOf record encode parts) (hoptional : ∀ p ∈ parts, p.required = false)
    (entries : List (String × Value)) :
    complaint? (record.ofEntries entries) = entries.findSome? (entryComplaint record) := by
  have hmissing : record.missing? entries = none := by
    rw [h.missing_eq_none_iff]
    intro p hp hrequired
    rw [hoptional p hp] at hrequired
    cases hrequired
  rw [← h.complaint_foldlM entries record.blank, Record.ofEntries, hmissing]
  cases entries.foldlM record.visit record.blank <;> rfl

end PartsOf

end PodLayers.Proofs
