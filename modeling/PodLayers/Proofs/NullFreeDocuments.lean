import Mathlib.Data.List.Induction
import PodLayers.Proofs.GatheredLayers

/-!
# Documents without nulls

In an edit a null is a mark that removes its key. Whatever the edits are, merging leaves no such mark in the
document, however deep it stood and whatever it was laid over. Whether the document is a mapping depends on
its last edit alone.
-/

namespace PodLayers.Proofs
open Entries

/-! ## Values reached through mappings -/

/-- A value that is reached from another through keys of mappings. -/
inductive Reaches (root : Value) : Value → Prop
  | root : Reaches root root
  | entry {entries : List (String × Value)} {key : String} {v : Value} :
      Reaches root (.mapping entries) → (key, v) ∈ entries → Reaches root v

/-- No mapping that is reached holds null under one of its keys. -/
def NullFree (v : Value) : Prop :=
  ∀ entries, Reaches v (.mapping entries) → ∀ entry ∈ entries, entry.2 ≠ .null

/-- Nulls neither under the keys of a mapping nor further down. -/
def NullFreeEntries (entries : List (String × Value)) : Prop :=
  ∀ entry ∈ entries, entry.2 ≠ .null ∧ NullFree entry.2

lemma reaches_below {entries : List (String × Value)} {entry : String × Value} (hentry : entry ∈ entries)
    {v : Value} (h : Reaches entry.2 v) : Reaches (.mapping entries) v := by
  induction h with
  | root => exact .entry .root hentry
  | entry _ hmem ih => exact .entry ih hmem

lemma reaches_mapping {entries : List (String × Value)} {v : Value} (h : Reaches (.mapping entries) v) :
    v = .mapping entries ∨ ∃ entry ∈ entries, Reaches entry.2 v := by
  induction h with
  | root => exact .inl rfl
  | @entry inner key v _ hmem ih =>
    rcases ih with hroot | ⟨first, hfirst, hinner⟩
    · obtain rfl : inner = entries := Value.mapping.inj hroot
      exact .inr ⟨(key, v), hmem, .root⟩
    · exact .inr ⟨first, hfirst, .entry hinner hmem⟩

lemma eq_of_reaches {root v : Value} (hroot : root.isMapping = false) (h : Reaches root v) : v = root := by
  induction h with
  | root => rfl
  | entry _ _ ih =>
    rw [← ih] at hroot
    cases hroot

lemma nullFree_mapping_iff (entries : List (String × Value)) :
    NullFree (.mapping entries) ↔ NullFreeEntries entries := by
  constructor
  · intro h entry hentry
    exact ⟨h entries .root entry hentry, fun inner hinner => h inner (reaches_below hentry hinner)⟩
  · intro h inner hinner entry hentry
    rcases reaches_mapping hinner with hroot | ⟨first, hfirst, hbelow⟩
    · obtain rfl : inner = entries := Value.mapping.inj hroot
      exact (h entry hentry).1
    · exact (h first hfirst).2 inner hbelow entry hentry

lemma nullFree_of_not_mapping {v : Value} (h : v.isMapping = false) : NullFree v := by
  intro entries hreached
  rw [← eq_of_reaches h hreached] at h
  cases h

lemma nullFree_entries {v : Value} (h : NullFree v) : NullFreeEntries v.entries := by
  cases v with
  | mapping entries => exact (nullFree_mapping_iff entries).1 h
  | null | bool | number | text | list => exact fun _ hentry => absurd hentry List.not_mem_nil

/-! ## Merging -/

lemma isMapping_merge (lower edit : Value) : (lower.merge edit).isMapping = edit.isMapping := by
  cases edit <;> simp [Value.merge, Value.isMapping]

lemma merge_ne_null {edit : Value} (h : ¬edit.isNull = true) (lower : Value) : lower.merge edit ≠ .null := by
  cases edit with
  | null => exact absurd rfl h
  | bool | number | text | list | mapping => simp [Value.merge]

mutual

/-- The edit may hold nulls anywhere, also below keys that are new. -/
theorem nullFree_merge (lower edit : Value) (h : NullFree lower) : NullFree (lower.merge edit) := by
  cases edit with
  | mapping edits =>
    rw [Value.merge, nullFree_mapping_iff]
    exact nullFree_mergeEntries lower.entries edits (nullFree_entries h)
  | null | bool | number | text | list =>
    rw [Value.merge]
    · exact nullFree_of_not_mapping rfl
    · exact nofun

theorem nullFree_mergeEntries (target edits : List (String × Value)) (h : NullFreeEntries target) :
    NullFreeEntries (Value.mergeEntries target edits) := by
  match edits with
  | [] => exact h
  | (key, edit) :: rest =>
    rw [Value.mergeEntries]
    split
    · refine nullFree_mergeEntries _ rest fun entry hentry => ?_
      exact h entry ((sublist_erase key target).subset hentry)
    · rename_i hnull
      -- a key that is new starts from a null, which has no entries to keep
      have hlower : NullFree ((find? key target).getD .null) := by
        cases hfind : find? key target with
        | none => exact nullFree_of_not_mapping rfl
        | some held => exact (h (key, held) (mem_of_find hfind)).2
      refine nullFree_mergeEntries _ rest fun entry hentry => ?_
      rcases mem_insert hentry with rfl | hentry
      · exact ⟨merge_ne_null hnull _, nullFree_merge _ edit hlower⟩
      · exact h entry hentry

end

lemma nullFree_mergeAll (edits : List Value) : NullFree (Value.mergeAll edits) := by
  induction edits using List.reverseRecOn with
  | nil => exact (nullFree_mapping_iff []).2 fun _ h => absurd h List.not_mem_nil
  | append_singleton edits edit ih =>
    rw [Value.mergeAll, List.foldl_concat]
    exact nullFree_merge _ edit ih

lemma isMapping_mergeAll_concat (edits : List Value) (edit : Value) :
    (Value.mergeAll (edits ++ [edit])).isMapping = edit.isMapping := by
  rw [Value.mergeAll, List.foldl_concat, isMapping_merge]

lemma isMapping_mergeAll {edits : List Value} (h : ∀ edit ∈ edits, edit.isMapping = true) :
    (Value.mergeAll edits).isMapping = true := by
  induction edits using List.reverseRecOn with
  | nil => rfl
  | append_singleton edits edit _ =>
    rw [isMapping_mergeAll_concat]
    exact h edit (by simp)

/-! ## Composed documents -/

/-- A document of the user that was taken from a value or from a text. -/
def Taken (vars : Vars) : Prop :=
  (∃ value, Vars.ofValue value = .ok vars) ∨ (∃ text, Vars.ofJson text = .ok vars) ∨
    ∃ text, Vars.ofYaml text = .ok vars

lemma isMapping_of_ofValue {value : Value} {vars : Vars} (h : Vars.ofValue value = .ok vars) :
    vars.document.isMapping = true := by
  unfold Vars.ofValue at h
  split at h
  · rename_i hmapping
    obtain rfl := Except.ok.inj h
    exact hmapping
  · cases h

lemma isMapping_of_taken {vars : Vars} (h : Taken vars) : vars.document.isMapping = true := by
  rcases h with ⟨value, h⟩ | ⟨text, h⟩ | ⟨text, h⟩
  · exact isMapping_of_ofValue h
  · unfold Vars.ofJson at h
    split at h
    · exact isMapping_of_ofValue h
    · cases h
  · unfold Vars.ofYaml at h
    split at h
    · exact isMapping_of_ofValue h
    · cases h

/-- The edits of a stack end with the document of the user. -/
lemma exists_edits_user {platform : Platform} {request : Request} {vars : Vars}
    (hvars : request.vars = some vars) (hissues : gatheredIssues platform request = []) :
    ∃ edits, ((gatheredLayers platform request).filterMap fun layer => layer.fragment.document) =
      edits ++ [vars.document] := by
  obtain ⟨addons, user, hlayers, -, huser⟩ := gatheredLayers_eq hissues
  have hdocument : ∃ pod, user = some { pod, document := some vars.document } := by
    rw [hvars] at huser
    cases hoverride : request.userOverride with
    | none =>
      rw [hoverride] at huser
      exact ⟨{}, (Except.ok.inj huser).symm⟩
    | some userOverride =>
      rw [hoverride, userFragment, map_eq_ok_iff] at huser
      obtain ⟨pod, -, huser⟩ := huser
      exact ⟨pod, huser.symm⟩
  obtain ⟨pod, rfl⟩ := hdocument
  refine ⟨(defaultLayer platform request :: addons).filterMap fun layer => layer.fragment.document, ?_⟩
  rw [hlayers, List.filterMap_append]
  rfl

/-- A composed document holds no null under any key that is reached from its root, whatever the layers
contribute. It is a mapping when the user gave a document, and when every edit is one. -/
theorem assemble_document {platform : Platform} {request : Request} {assembled : Assembled}
    (h : platform.assemble request = .ok assembled) :
    NullFree assembled.document ∧
      ((∃ vars, request.vars = some vars ∧ Taken vars) ∨
          (∀ layer ∈ gatheredLayers platform request, ∀ edit,
            layer.fragment.document = some edit → edit.isMapping = true) →
        assembled.document.isMapping = true) := by
  obtain ⟨hissues, pod, -, -, rfl⟩ := (assemble_eq_ok_iff _ _ _).1 h
  refine ⟨nullFree_mergeAll _, ?_⟩
  change _ → (stackDocuments (gatheredLayers platform request)).isMapping = true
  rw [stackDocuments]
  rintro (⟨vars, hvars, htaken⟩ | hedits)
  · obtain ⟨edits, hlast⟩ := exists_edits_user hvars hissues
    rw [hlast, isMapping_mergeAll_concat]
    exact isMapping_of_taken htaken
  · apply isMapping_mergeAll
    intro edit hedit
    obtain ⟨layer, hlayer, hdocument⟩ := List.mem_filterMap.1 hedit
    exact hedits layer hlayer edit hdocument

/-- A preset that replaces the whole document by a list. -/
def listedCatalog : Catalog where
  presets := [
    { key := "listed", isActive := fun _ => true
      contribute := fun _ => .ok { document := some (.list [.null]) } }]
  distinct := by decide

/-- Nulls below a key that is new, and where a text stood. -/
def sparseVars : Value := .mapping [
  ("period", .mapping [("every", .null)]),
  ("ssl", .mapping [("ca", .null), ("keys", .mapping [("old", .null), ("new", .text "a.pem")])])]

def sparseRequest : Request where
  identity := { name := "kibana-sample", version := "8.0.0" }
  vars := some ⟨sparseVars⟩

theorem assemble_document_sparse :
    ∃ assembled, Platform.assemble ⟨{}, listedCatalog⟩ sparseRequest = .ok assembled ∧
      Taken ⟨sparseVars⟩ ∧ NullFree assembled.document ∧ assembled.document.isMapping = true ∧
      assembled.document.at? ["ssl", "keys"] = some (.mapping [("new", .text "a.pem")]) := by
  obtain ⟨assembled, h, hkeys⟩ :
      ∃ assembled, Platform.assemble ⟨{}, listedCatalog⟩ sparseRequest = .ok assembled ∧
        assembled.document.at? ["ssl", "keys"] = some (.mapping [("new", .text "a.pem")]) := ⟨_, rfl, rfl⟩
  have htaken : Taken ⟨sparseVars⟩ := .inl ⟨sparseVars, rfl⟩
  obtain ⟨hfree, hmapping⟩ := assemble_document h
  exact ⟨assembled, h, htaken, hfree, hmapping (.inl ⟨_, rfl, htaken⟩), hkeys⟩

end PodLayers.Proofs
