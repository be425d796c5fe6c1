import PodLayers.Proofs.DocumentPaths
import PodLayers.Proofs.ListJoin
import PodLayers.Proofs.NullFreeDocuments

/-!
# Edits of documents

An edit settles a document: laid over it again it changes nothing, and edits of different keys may come in
either order. Every mapping without nulls can be reached from every document by one edit, which removes the
keys that are too many and rewrites the others.
-/

namespace PodLayers.Proofs
open Entries

/-! ## Documents by their keys -/

/-- A mapping is given by what stands under its keys. -/
lemma mapping_eq_of_get {v w : Value} (hv : v.Ordered) (hw : w.Ordered) (hvm : v.isMapping = true)
    (hwm : w.isMapping = true) (h : ∀ key, v.get? key = w.get? key) : v = w := by
  obtain ⟨entries, rfl⟩ := exists_entries hvm
  obtain ⟨entries', rfl⟩ := exists_entries hwm
  exact congrArg Value.mapping (sorted_eq_of_find hv.1 hw.1 h)

lemma merge_leaf {edit : Value} (h : edit.isMapping = false) (lower : Value) : lower.merge edit = edit := by
  cases edit with
  | mapping => cases h
  | null | bool | number | text | list => rfl

/-! ## Laying edits over again and in another order -/

lemma merge_again {doc edit : Value} (hdoc : doc.Ordered) (hedit : edit.Ordered) :
    (doc.merge edit).merge edit = doc.merge edit := by
  induction edit using mapping_induction generalizing doc with
  | leaf edit hleaf => rw [merge_leaf hleaf, merge_leaf hleaf]
  | mapping edits ih =>
    have honce : (doc.merge (.mapping edits)).Ordered := ordered_merge doc _ hdoc hedit
    refine mapping_eq_of_get (ordered_merge _ _ honce hedit) honce rfl rfl fun key => ?_
    rw [get_merge_mapping hedit.1 honce, get_merge_mapping hedit.1 hdoc]
    cases hfind : find? key edits with
    | none => rfl
    | some edit =>
      cases hnull : edit.isNull with
      | true => simp only [hnull, if_true]
      | false =>
        -- under this key the edit meets what it left there before
        have hkey := ih (key, edit) (mem_of_find hfind) (ordered_get hdoc key) (ordered_of_find hedit.2 hfind)
        simp only [hnull, Bool.false_eq_true, if_false, Option.getD_some]
        exact congrArg some hkey

/-- No key is edited by both. -/
def EditsApart (edit other : Value) : Prop :=
  ∀ key, edit.get? key = none ∨ other.get? key = none

lemma merge_swap {doc : Value} {edits others : List (String × Value)} (hdoc : doc.Ordered)
    (hedits : (Value.mapping edits).Ordered) (hothers : (Value.mapping others).Ordered)
    (hapart : EditsApart (.mapping edits) (.mapping others)) :
    (doc.merge (.mapping edits)).merge (.mapping others) =
      (doc.merge (.mapping others)).merge (.mapping edits) := by
  have hfirst : (doc.merge (.mapping edits)).Ordered := ordered_merge doc _ hdoc hedits
  have hother : (doc.merge (.mapping others)).Ordered := ordered_merge doc _ hdoc hothers
  refine mapping_eq_of_get (ordered_merge _ _ hfirst hothers) (ordered_merge _ _ hother hedits) rfl rfl
    fun key => ?_
  rw [get_merge_mapping hothers.1 hfirst, get_merge_mapping hedits.1 hother,
    get_merge_mapping hedits.1 hdoc, get_merge_mapping hothers.1 hdoc]
  rcases hapart key with hnone | hnone
  · rw [show find? key edits = none from hnone]
  · rw [show find? key others = none from hnone]

/-- An edit that is laid over a document for the second time changes nothing, whatever it removes, empties or
replaces. Two edits without a common key give the same document in either order. -/
theorem merge_settles {doc edit : Value} (hdoc : doc.Ordered) (hedit : edit.Ordered) :
    (doc.merge edit).merge edit = doc.merge edit ∧
      ∀ other : Value, other.Ordered → edit.isMapping = true → other.isMapping = true →
        EditsApart edit other → (doc.merge edit).merge other = (doc.merge other).merge edit := by
  refine ⟨merge_again hdoc hedit, fun other hother hmapping hotherMapping hapart => ?_⟩
  obtain ⟨edits, rfl⟩ := exists_entries hmapping
  obtain ⟨others, rfl⟩ := exists_entries hotherMapping
  exact merge_swap hdoc hedit hother hapart

/-- A document with a mapping, a text and a list. -/
def plainDocument : Value := .mapping [
  ("hosts", .list [.text "a:1"]),
  ("period", .text "10s"),
  ("ssl", .mapping [("ca", .text "a.pem"), ("mode", .text "none")])]

/-- Removes a key, opens a mapping where a text stood and one with nothing but a null where nothing did. -/
def sweepingEdit : Value := .mapping [
  ("auth", .mapping [("token", .null)]),
  ("period", .mapping [("every", .text "30s"), ("jitter", .null)]),
  ("ssl", .mapping [("ca", .null), ("keys", .mapping [])])]

def hostsEdit : Value := .mapping [("hosts", .null), ("module", .text "kibana")]

/-- What the first edit leaves. Nulls that it brings are gone, and so is the key that it removes. -/
def sweptDocument : Value := .mapping [
  ("auth", .mapping []),
  ("hosts", .list [.text "a:1"]),
  ("period", .mapping [("every", .text "30s")]),
  ("ssl", .mapping [("keys", .mapping []), ("mode", .text "none")])]

/-- What both edits leave. -/
def settledDocument : Value := .mapping [
  ("auth", .mapping []),
  ("module", .text "kibana"),
  ("period", .mapping [("every", .text "30s")]),
  ("ssl", .mapping [("keys", .mapping []), ("mode", .text "none")])]

theorem merge_settles_sweeping :
    plainDocument.Ordered ∧ sweepingEdit.Ordered ∧ hostsEdit.Ordered ∧
      plainDocument.merge sweepingEdit = sweptDocument ∧
      (plainDocument.merge sweepingEdit).merge sweepingEdit = sweptDocument ∧
      (plainDocument.merge sweepingEdit).merge hostsEdit = settledDocument ∧
      (plainDocument.merge hostsEdit).merge sweepingEdit = settledDocument := by
  have hdoc : plainDocument.Ordered := by
    simp +decide [plainDocument, Value.Ordered, Value.OrderedEntries, Value.OrderedItems, Sorted]
  have hedit : sweepingEdit.Ordered := by
    simp +decide [sweepingEdit, Value.Ordered, Value.OrderedEntries, Sorted]
  have hother : hostsEdit.Ordered := by
    simp +decide [hostsEdit, Value.Ordered, Value.OrderedEntries, Sorted]
  have hapart : EditsApart sweepingEdit hostsEdit := by
    intro key
    by_cases hhosts : key = "hosts"
    · exact .inl (hhosts ▸ rfl)
    · by_cases hmodule : key = "module"
      · exact .inl (hmodule ▸ rfl)
      · right
        simp [hostsEdit, Value.get?, Value.entries, find?, Ne.symm hhosts, Ne.symm hmodule]
  have hswept : plainDocument.merge sweepingEdit = sweptDocument := rfl
  have hsettled : (plainDocument.merge sweepingEdit).merge hostsEdit = settledDocument := rfl
  obtain ⟨hagain, hswap⟩ := merge_settles hdoc hedit
  exact ⟨hdoc, hedit, hother, hswept, hagain.trans hswept, hsettled,
    (hswap hostsEdit hother rfl rfl hapart).symm.trans hsettled⟩

/-! ## The edit that leads to a document -/

/-- Marks every key for removal. -/
def removals (entries : List (String × Value)) : List (String × Value) :=
  entries.map fun entry => (entry.1, .null)

mutual

/-- The edit that turns one document into another. -/
def revision (lower : Value) : Value → Value
  | .mapping targets => .mapping (Entries.overlay (removals lower.entries) (revisions lower.entries targets))
  | target => target

/-- For each target the edit of what stands under its key. -/
def revisions (lower : List (String × Value)) : List (String × Value) → List (String × Value)
  | [] => []
  | (key, target) :: rest => (key, revision ((find? key lower).getD .null) target) :: revisions lower rest

end

section Revisions

variable {doc target : Value} {targets : List (String × Value)}

lemma revision_leaf (h : target.isMapping = false) (lower : Value) : revision lower target = target := by
  cases target with
  | mapping => cases h
  | null | bool | number | text | list => rfl

lemma isNull_revision (lower target : Value) : (revision lower target).isNull = target.isNull := by
  cases target <;> rfl

lemma find_revisions (lower targets : List (String × Value)) (key : String) :
    find? key (revisions lower targets) =
      (find? key targets).map (revision ((find? key lower).getD .null)) := by
  induction targets with
  | nil => rfl
  | cons head rest ih =>
    obtain ⟨k, target⟩ := head
    rw [revisions, find_cons, find_cons, ih]
    by_cases hkey : k = key
    · rw [if_pos hkey, if_pos hkey, hkey, Option.map_some]
    · rw [if_neg hkey, if_neg hkey]

lemma keys_revisions (lower targets : List (String × Value)) :
    keys (revisions lower targets) = keys targets := by
  induction targets with
  | nil => rfl
  | cons head rest ih => exact congrArg (head.1 :: ·) ih

lemma sorted_removals {entries : List (String × Value)} (h : Sorted entries) : Sorted (removals entries) := by
  rw [Sorted, removals, List.pairwise_map]
  exact h

/-- Each target is written under its key, and the other keys of the document are removed. -/
lemma find_revision_mapping (htargets : Sorted targets) (doc : Value) (key : String) :
    find? key (Entries.overlay (removals doc.entries) (revisions doc.entries targets)) =
      ((find? key targets).map (revision ((doc.get? key).getD .null))).or
        ((doc.get? key).map fun _ => .null) := by
  have hnodup : (keys (revisions doc.entries targets)).Nodup := by
    rw [keys_revisions]
    exact sorted_nodup htargets
  rw [find_overlay hnodup, find_revisions, removals, find_map fun _ => Value.null]
  rfl

lemma ordered_revision (hdoc : doc.Ordered) (htarget : target.Ordered) : (revision doc target).Ordered := by
  induction target using mapping_induction generalizing doc with
  | leaf target hleaf => rwa [revision_leaf hleaf]
  | mapping targets ih =>
    have hsorted : Sorted (Entries.overlay (removals doc.entries) (revisions doc.entries targets)) :=
      sorted_overlay _ (sorted_removals (ordered_entries hdoc).1)
    refine ⟨hsorted, (orderedEntries_iff _).2 ?_⟩
    rintro ⟨key, edit⟩ hedit
    have hfind := find_of_mem (sorted_nodup hsorted) hedit
    rw [find_revision_mapping htarget.1] at hfind
    cases htargetFind : find? key targets with
    | none =>
      rw [htargetFind, Option.map_none, Option.none_or, Option.map_eq_some_iff] at hfind
      obtain ⟨held, -, rfl⟩ := hfind
      trivial
    | some inner =>
      rw [htargetFind, Option.map_some, Option.some_or, Option.some.injEq] at hfind
      rw [← hfind]
      exact ih (key, inner) (mem_of_find htargetFind) (ordered_get hdoc key)
        (ordered_of_find htarget.2 htargetFind)

lemma merge_revision (hdoc : doc.Ordered) (htarget : target.Ordered) (hfree : NullFree target) :
    doc.merge (revision doc target) = target := by
  induction target using mapping_induction generalizing doc with
  | leaf target hleaf => rw [revision_leaf hleaf, merge_leaf hleaf]
  | mapping targets ih =>
    have hrevision : (revision doc (.mapping targets)).Ordered := ordered_revision hdoc htarget
    refine mapping_eq_of_get (ordered_merge _ _ hdoc hrevision) htarget rfl rfl fun key => ?_
    have hstep := get_merge_mapping hrevision.1 hdoc key
    rw [find_revision_mapping htarget.1] at hstep
    refine hstep.trans ?_
    change _ = find? key targets
    cases hfind : find? key targets with
    | none => cases doc.get? key <;> rfl
    | some inner =>
      have hmem : (key, inner) ∈ targets := mem_of_find hfind
      obtain ⟨hnotNull, hinnerFree⟩ := (nullFree_mapping_iff targets).1 hfree (key, inner) hmem
      have hnull : inner.isNull = false := by
        cases inner with
        | null => exact absurd rfl hnotNull
        | bool | number | text | list | mapping => rfl
      have hinner := ih (key, inner) hmem (ordered_get hdoc key) (ordered_of_find htarget.2 hfind) hinnerFree
      simp only [Option.map_some, Option.some_or, isNull_revision, hnull, Bool.false_eq_true, if_false]
      exact congrArg some hinner

end Revisions

/-- From every document the user can reach every mapping without nulls under its keys, by one document that
is accepted as it is. -/
theorem exists_vars_merge {doc target : Value} (hdoc : doc.Ordered) (htarget : target.Ordered)
    (hmapping : target.isMapping = true) (hfree : NullFree target) :
    ∃ value vars, value.Ordered ∧ Vars.ofValue value = .ok vars ∧ doc.merge vars.document = target := by
  have hvalue : (revision doc target).isMapping = true := by
    obtain ⟨targets, rfl⟩ := exists_entries hmapping
    rfl
  refine ⟨revision doc target, ⟨revision doc target⟩, ordered_revision hdoc htarget, ?_,
    merge_revision hdoc htarget hfree⟩
  rw [Vars.ofValue, if_pos hvalue]

/-- Empties a mapping, opens an empty one where nothing stood and another where a list did, and replaces a
mapping by a list that holds a null. -/
def turnedDocument : Value := .mapping [
  ("auth", .mapping []),
  ("hosts", .mapping [("first", .mapping [("port", .integer 1)])]),
  ("ssl", .list [.null])]

/-- The edit that does this, which also removes what the document has no place for. -/
def turningEdit : Value := .mapping [
  ("auth", .mapping []),
  ("hosts", .mapping [("first", .mapping [("port", .integer 1)])]),
  ("period", .null),
  ("ssl", .list [.null])]

theorem exists_vars_merge_turned :
    plainDocument.Ordered ∧ turnedDocument.Ordered ∧ turnedDocument.isMapping = true ∧
      NullFree turnedDocument ∧
      revision plainDocument turnedDocument = turningEdit ∧
      plainDocument.merge turningEdit = turnedDocument ∧
      ∃ value vars, value.Ordered ∧ Vars.ofValue value = .ok vars ∧
        plainDocument.merge vars.document = turnedDocument := by
  have hdoc : plainDocument.Ordered := by
    simp +decide [plainDocument, Value.Ordered, Value.OrderedEntries, Value.OrderedItems, Sorted]
  have htarget : turnedDocument.Ordered := by
    simp +decide [turnedDocument, Value.integer, Value.Ordered, Value.OrderedEntries, Value.OrderedItems, Sorted]
  have hfree : NullFree turnedDocument := by
    have hport : NullFree (.integer 1) := nullFree_of_not_mapping rfl
    have hlist : NullFree (.list [.null]) := nullFree_of_not_mapping rfl
    simpa [turnedDocument, nullFree_mapping_iff, NullFreeEntries, Value.integer] using ⟨hport, hlist⟩
  exact ⟨hdoc, htarget, rfl, hfree, rfl, rfl, exists_vars_merge hdoc htarget rfl hfree⟩

end PodLayers.Proofs
