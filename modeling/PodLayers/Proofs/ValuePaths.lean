import PodLayers.Proofs.DocumentPaths
import PodLayers.Proofs.ListJoin
import PodLayers.Value.Basic

/-!
# Leaves of values

A leaf is a boolean, a number or a text; its place is the path of keys and positions that leads to it. A
value restates another one when it has every leaf of it in its place, and no leaf besides except those that
may be filled in where the other has nothing.
-/

namespace PodLayers.Proofs
open Entries

inductive Step
  | key (name : String)
  | index (i : Nat)
deriving DecidableEq

def child? (v : Value) : Step → Option Value
  | .key name => v.get? name
  | .index i => v.items[i]?

/-- What stands at a path below a value that may be absent. -/
def nodeAt (held : Option Value) : List Step → Option Value
  | [] => held
  | step :: path => nodeAt (held.bind fun v => child? v step) path

def IsLeaf : Value → Prop
  | .bool _ | .number _ | .text _ => True
  | .null | .list _ | .mapping _ => False

/-- The leaves of `given` stand in `written` as well, and what `written` adds may be filled in. -/
structure Restates (filled : List Step → Value → Prop) (given written : Option Value) : Prop where
  kept : ∀ path leaf, IsLeaf leaf → nodeAt given path = some leaf → nodeAt written path = some leaf
  added : ∀ path leaf, IsLeaf leaf → nodeAt written path = some leaf →
    nodeAt given path = some leaf ∨ nodeAt given path = none ∧ filled path leaf

/-- What may be filled in below a step. -/
def after (step : Step) (filled : List Step → Value → Prop) (path : List Step) (leaf : Value) : Prop :=
  filled (step :: path) leaf

def Leafless (held : Option Value) : Prop := ∀ path leaf, IsLeaf leaf → nodeAt held path ≠ some leaf

lemma nodeAt_none (path : List Step) : nodeAt none path = none := by
  induction path with
  | nil => rfl
  | cons step path ih => exact ih

lemma nodeAt_cons (v : Value) (step : Step) (path : List Step) :
    nodeAt (some v) (step :: path) = nodeAt (child? v step) path := rfl

lemma child_of_leaf {v : Value} (h : IsLeaf v) (step : Step) : child? v step = none := by
  cases v with
  | bool | number | text => cases step <;> rfl
  | null | list | mapping => exact h.elim

/-! ## Values without leaves -/

lemma leafless_none : Leafless none := by
  intro path leaf _ h
  rw [nodeAt_none] at h
  cases h

lemma leafless_of_children {v : Value} (hv : ¬IsLeaf v) (h : ∀ step, child? v step = none) :
    Leafless (some v) := by
  intro path leaf hleaf hnode
  cases path with
  | nil => exact hv (Option.some.inj hnode ▸ hleaf)
  | cons step path =>
    rw [nodeAt_cons, h step] at hnode
    exact leafless_none path leaf hleaf hnode

lemma leafless_null : Leafless (some .null) :=
  leafless_of_children id fun step => by cases step <;> rfl

lemma leafless_list_nil : Leafless (some (.list [])) :=
  leafless_of_children id fun step => by cases step <;> rfl

lemma leafless_mapping_nil : Leafless (some (.mapping [])) :=
  leafless_of_children id fun step => by cases step <;> rfl

/-! ## Restating -/

section Restates

variable {filled : List Step → Value → Prop} {given written : Option Value}

lemma restates_refl (held : Option Value) : Restates filled held held where
  kept _ _ _ h := h
  added _ _ _ h := .inl h

lemma restates_of_leafless (hgiven : Leafless given) (hwritten : Leafless written) :
    Restates filled given written where
  kept path leaf hleaf h := absurd h (hgiven path leaf hleaf)
  added path leaf hleaf h := absurd h (hwritten path leaf hleaf)

/-- What is written without leaves may be left out. -/
lemma Restates.leftOut (h : Restates filled given written) (hwritten : Leafless written) :
    Restates filled given none := by
  refine restates_of_leafless (fun path leaf hleaf hnode => ?_) leafless_none
  exact hwritten path leaf hleaf (h.kept path leaf hleaf hnode)

lemma restates_filled {leaf : Value} (hleaf : IsLeaf leaf) (h : filled [] leaf) :
    Restates filled none (some leaf) where
  kept path other hother hnode := absurd hnode (leafless_none path other hother)
  added path other hother hnode := by
    cases path with
    | nil =>
      obtain rfl : leaf = other := Option.some.inj hnode
      exact .inr ⟨rfl, h⟩
    | cons step path =>
      rw [nodeAt_cons, child_of_leaf hleaf] at hnode
      exact absurd hnode (leafless_none path other hother)

lemma restates_of_children {v w : Value} (hv : ¬IsLeaf v) (hw : ¬IsLeaf w)
    (h : ∀ step, Restates (after step filled) (child? v step) (child? w step)) :
    Restates filled (some v) (some w) where
  kept path leaf hleaf hnode := by
    cases path with
    | nil => exact absurd hleaf (Option.some.inj hnode ▸ hv)
    | cons step path => exact (h step).kept path leaf hleaf hnode
  added path leaf hleaf hnode := by
    cases path with
    | nil => exact absurd hleaf (Option.some.inj hnode ▸ hw)
    | cons step path => exact (h step).added path leaf hleaf hnode

lemma restates_mapping {entries entries' : List (String × Value)}
    (h : ∀ key, Restates (after (.key key) filled) (find? key entries) (find? key entries')) :
    Restates filled (some (.mapping entries)) (some (.mapping entries')) :=
  restates_of_children id id fun step => match step with
    | .key key => h key
    | .index _ => restates_refl none

lemma restates_list {items items' : List Value}
    (h : ∀ i, Restates (after (.index i) filled) items[i]? items'[i]?) :
    Restates filled (some (.list items)) (some (.list items')) :=
  restates_of_children id id fun step => match step with
    | .key _ => restates_refl none
    | .index i => h i

end Restates

/-! ## Arranged values -/

lemma arrangedItems_eq_map (items : List Value) : Value.arrangedItems items = items.map Value.arranged := by
  induction items with
  | nil => rfl
  | cons item rest ih => rw [Value.arrangedItems, ih, List.map_cons]

lemma arrangedEntries_eq_map (entries : List (String × Value)) :
    Value.arrangedEntries entries = entries.map fun entry => (entry.1, entry.2.arranged) := by
  induction entries with
  | nil => rfl
  | cons entry rest ih => rw [Value.arrangedEntries, ih, List.map_cons]

section Arranged

variable {α : Type}

lemma find_ofList {entries : List (String × α)} (hd : (keys entries).Nodup) (key : String) :
    find? key (Entries.ofList entries) = find? key entries := by
  rw [Entries.ofList, find_overlay hd, find?, Option.or_none]

lemma ofList_of_sorted {entries : List (String × α)} (h : Sorted entries) :
    Entries.ofList entries = entries :=
  sorted_eq_of_find (sorted_ofList entries) h (find_ofList (sorted_nodup h))

lemma arranged_mapping (entries : List (String × Value)) : (Value.mapping entries).arranged =
    .mapping (Entries.ofList (entries.map fun entry => (entry.1, entry.2.arranged))) := by
  rw [Value.arranged, arrangedEntries_eq_map]

lemma find_arranged {entries : List (String × Value)} (hd : (keys entries).Nodup) (key : String) :
    find? key (Entries.ofList (entries.map fun entry => (entry.1, entry.2.arranged))) =
      (find? key entries).map Value.arranged := by
  rw [find_ofList (by rwa [keys_map]), find_map]

lemma arranged_list (items : List Value) :
    (Value.list items).arranged = .list (items.map Value.arranged) := by
  rw [Value.arranged, arrangedItems_eq_map]

lemma arranged_ofList (write : α → Value) (items : List α) :
    (Value.ofList write items).arranged = .list (items.map fun a => (write a).arranged) := by
  rw [Value.ofList, arranged_list, List.map_map]
  rfl

lemma arranged_ofMap (write : α → Value) (map : SortedMap α) : (Value.ofMap write map).arranged =
    .mapping (map.entries.map fun entry => (entry.1, (write entry.2).arranged)) := by
  rw [Value.ofMap, arranged_mapping, List.map_map]
  exact congrArg Value.mapping (ofList_of_sorted (List.pairwise_map.2 map.sorted))

end Arranged

end PodLayers.Proofs
