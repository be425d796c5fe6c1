import PodLayers.Proofs.ValuePaths
import PodLayers.Settings.Load

/-!
# Trees of settings laid over each other

What stands at a path after one tree is laid over another, as long as only tables stand on the way to it.
Each key of a table is merged once, since keys increase.
-/

namespace PodLayers.Proofs
open Entries Setting

def isTable : Setting → Bool
  | .table _ _ => true
  | _ => false

/-- The keys of every table increase. -/
inductive InKeyOrder : Setting → Prop
  | leaf {setting : Setting} (h : isTable setting = false) : InKeyOrder setting
  | table (source : Source) {entries : List (String × Setting)} (sorted : Sorted entries)
      (inner : ∀ entry ∈ entries, InKeyOrder entry.2) : InKeyOrder (.table source entries)

/-- Only tables stand on the way to a path, as far as there is anything. -/
def Passable (path : List String) (tree : Setting) : Prop :=
  ∀ way setting, way <+: path → way ≠ path → tree.at? way = some setting → isTable setting = true

/-- A leaf may stand at the path. -/
structure RoomFor (path : List String) (tree : Setting) : Prop where
  passable : Passable path tree
  noTable : ∀ setting, tree.at? path = some setting → isTable setting = false

lemma exists_entries_of_isTable {setting : Setting} (h : isTable setting = true) :
    ∃ source entries, setting = .table source entries := by
  cases setting with
  | table source entries => exact ⟨source, entries, rfl⟩
  | nothing | text | char | bool | natural | signed | fraction | list => cases h

lemma InKeyOrder.entries {source : Source} {entries : List (String × Setting)}
    (h : InKeyOrder (.table source entries)) :
    Sorted entries ∧ ∀ entry ∈ entries, InKeyOrder entry.2 := by
  cases h with
  | leaf h => cases h
  | table _ sorted inner => exact ⟨sorted, inner⟩

lemma InKeyOrder.of_find {source : Source} {entries : List (String × Setting)}
    (h : InKeyOrder (.table source entries)) {key : String} {setting : Setting}
    (hfind : find? key entries = some setting) : InKeyOrder setting :=
  h.entries.2 (key, setting) (mem_of_find hfind)

/-! ## Paths -/

lemma at_table_cons (source : Source) (entries : List (String × Setting)) (key : String) (path : List String) :
    (Setting.table source entries).at? (key :: path) = (find? key entries).bind fun inner => inner.at? path :=
  rfl

lemma at_append (tree : Setting) (path rest : List String) :
    tree.at? (path ++ rest) = (tree.at? path).bind fun inner => inner.at? rest := by
  induction path generalizing tree with
  | nil => rfl
  | cons key path ih =>
    rw [List.cons_append, Setting.at?, Setting.at?]
    cases tree.child? key with
    | none => rfl
    | some inner => exact ih inner

lemma passable_nil (tree : Setting) : Passable [] tree := by
  intro way _ hway hne
  exact absurd (List.prefix_nil.1 hway) hne

lemma passable_cons (key : String) (path : List String) (tree : Setting) :
    Passable (key :: path) tree ↔ ∃ source entries, tree = .table source entries ∧
      ∀ inner, find? key entries = some inner → Passable path inner := by
  constructor
  · intro h
    obtain ⟨source, entries, rfl⟩ := exists_entries_of_isTable (h [] tree List.nil_prefix (by simp) rfl)
    refine ⟨source, entries, rfl, fun inner hinner way setting hway hne hat => ?_⟩
    refine h (key :: way) setting (List.cons_prefix_cons.2 ⟨rfl, hway⟩) (by simpa using hne) ?_
    rw [at_table_cons, hinner]
    exact hat
  · rintro ⟨source, entries, rfl, hinner⟩ way setting hway hne hat
    cases way with
    | nil => exact Option.some.inj hat ▸ rfl
    | cons k way =>
      obtain ⟨rfl, hrest⟩ := List.cons_prefix_cons.1 hway
      rw [at_table_cons] at hat
      obtain ⟨inner, hfind, hat⟩ := Option.bind_eq_some_iff.1 hat
      exact hinner inner hfind way setting hrest (by simpa using hne) hat

instance decidablePassable : (path : List String) → (tree : Setting) → Decidable (Passable path tree)
  | [], tree => isTrue (passable_nil tree)
  | key :: path, .table source entries =>
    match hfind : find? key entries with
    | none => isTrue ((passable_cons key path _).2 ⟨source, entries, rfl, by simp [hfind]⟩)
    | some inner =>
      have hiff : Passable path inner ↔ Passable (key :: path) (.table source entries) := by
        simp [passable_cons, hfind]
      have := decidablePassable path inner
      decidable_of_iff _ hiff
  | key :: path, .nothing _ | key :: path, .text _ _ | key :: path, .char _ _ | key :: path, .bool _ _
  | key :: path, .natural _ _ | key :: path, .signed _ _ | key :: path, .fraction _ _
  | key :: path, .list _ _ => isFalse (by simp [passable_cons])

instance (path : List String) (tree : Setting) : Decidable (RoomFor path tree) :=
  decidable_of_iff (Passable path tree ∧ (tree.at? path).all (fun setting => !isTable setting) = true) <| by
    constructor
    · rintro ⟨hpassable, hleaf⟩
      exact ⟨hpassable, by simpa [Option.all_eq_true] using hleaf⟩
    · rintro ⟨hpassable, hleaf⟩
      exact ⟨hpassable, by simpa [Option.all_eq_true] using hleaf⟩

lemma Passable.of_prefix {path way : List String} {tree : Setting} (h : Passable path tree)
    (hway : way <+: path) : Passable way tree := by
  intro shorter setting hshorter hne hat
  refine h shorter setting (hshorter.trans hway) ?_ hat
  rintro rfl
  exact hne (hshorter.eq_of_length_le hway.length_le)

lemma passable_concat (way : List String) (key : String) (tree : Setting) :
    Passable (way ++ [key]) tree ↔
      Passable way tree ∧ ∀ setting, tree.at? way = some setting → isTable setting = true := by
  constructor
  · intro h
    have hway : way <+: way ++ [key] := List.prefix_append _ _
    exact ⟨h.of_prefix hway, fun setting => h way setting hway (by simp)⟩
  · rintro ⟨hway, htable⟩ shorter setting hshorter hne hat
    rcases List.prefix_concat_iff.1 hshorter with heq | hprefix
    · exact absurd heq hne
    · by_cases heq : shorter = way
      · exact htable setting (heq ▸ hat)
      · exact hway shorter setting hprefix heq hat

lemma Passable.below {way rest : List String} {tree inner : Setting} (h : Passable (way ++ rest) tree)
    (hat : tree.at? way = some inner) : Passable rest inner := by
  intro further setting hfurther hne hsetting
  refine h (way ++ further) setting ((List.prefix_append_right_inj way).2 hfurther) (by simpa using hne) ?_
  rw [at_append, hat]
  exact hsetting

lemma InKeyOrder.of_at {path : List String} {tree inner : Setting} (h : InKeyOrder tree)
    (hpassable : Passable path tree) (hat : tree.at? path = some inner) : InKeyOrder inner := by
  induction path generalizing tree with
  | nil => exact Option.some.inj hat ▸ h
  | cons key path ih =>
    obtain ⟨source, entries, rfl, hbelow⟩ := (passable_cons key path tree).1 hpassable
    rw [at_table_cons] at hat
    obtain ⟨next, hnext, hat⟩ := Option.bind_eq_some_iff.1 hat
    exact ih (h.of_find hnext) (hbelow next hnext) hat

/-! ## Merging -/

/-- One setting over another, either of which may be missing. -/
def overlaid : Option Setting → Option Setting → Option Setting
  | lower, none => lower
  | none, some higher => some higher
  | some lower, some higher => some (lower.merge higher)

lemma overlaid_none (lower : Option Setting) : overlaid lower none = lower := by
  cases lower <;> rfl

lemma none_overlaid (higher : Option Setting) : overlaid none higher = higher := by
  cases higher <;> rfl

lemma merge_of_leaf {higher : Setting} (h : isTable higher = false) (lower : Setting) :
    lower.merge higher = higher := by
  cases higher with
  | table => cases h
  | nothing | text | char | bool | natural | signed | fraction | list => rfl

lemma merge_tables (source source' : Source) (lower higher : List (String × Setting)) :
    (Setting.table source lower).merge (.table source' higher) =
      .table source' (mergeEntries lower higher) := by
  rw [Setting.merge]

lemma mergeEntries_cons (lower : List (String × Setting)) (key : String) (setting : Setting)
    (rest : List (String × Setting)) :
    mergeEntries lower ((key, setting) :: rest) =
      mergeEntries (Entries.insert key (((find? key lower).map fun held => held.merge setting).getD setting)
        lower) rest := by
  rw [mergeEntries]
  cases find? key lower <;> rfl

lemma find_mergeSettings {higher : List (String × Setting)} (hd : (keys higher).Nodup)
    (lower : List (String × Setting)) (key : String) :
    find? key (mergeEntries lower higher) = overlaid (find? key lower) (find? key higher) := by
  induction higher generalizing lower with
  | nil => rw [mergeEntries, find?, overlaid_none]
  | cons head rest ih =>
    obtain ⟨k, setting⟩ := head
    obtain ⟨hk, hrest⟩ : k ∉ keys rest ∧ (keys rest).Nodup := by simpa [keys] using hd
    rw [mergeEntries_cons, ih hrest, find_insert, find_cons]
    by_cases hkey : k = key
    · subst hkey
      rw [if_pos rfl, if_pos rfl, (find_eq_none_iff k rest).2 hk]
      cases find? k lower <;> rfl
    · rw [if_neg hkey, if_neg hkey]

/-- What stands at a path of merged trees comes from what stands there in each of them. -/
lemma at_merge {path : List String} {lower higher : Setting} (hlower : Passable path lower)
    (hhigher : Passable path higher) (horder : InKeyOrder higher) :
    (lower.merge higher).at? path = overlaid (lower.at? path) (higher.at? path) := by
  induction path generalizing lower higher with
  | nil => rfl
  | cons key path ih =>
    obtain ⟨source, entries, rfl, hbelow⟩ := (passable_cons key path lower).1 hlower
    obtain ⟨source', entries', rfl, hbelow'⟩ := (passable_cons key path higher).1 hhigher
    rw [merge_tables, at_table_cons, at_table_cons, at_table_cons,
      find_mergeSettings (sorted_nodup horder.entries.1)]
    -- both are tables in front of the end, so only what they have under the key meets
    cases hfind : find? key entries with
    | none => rw [none_overlaid, Option.bind_none, none_overlaid]
    | some inner =>
      cases hfind' : find? key entries' with
      | none => rw [overlaid_none, Option.bind_none, overlaid_none]
      | some inner' => exact ih (hbelow inner hfind) (hbelow' inner' hfind') (horder.of_find hfind')

/-- The higher tree decides about leaves. -/
lemma at_merge_leaf {path : List String} {lower higher : Setting} (hlower : Passable path lower)
    (hhigher : RoomFor path higher) (horder : InKeyOrder higher) :
    (lower.merge higher).at? path = (higher.at? path).or (lower.at? path) := by
  rw [at_merge hlower hhigher.passable horder]
  cases hat : higher.at? path with
  | none => exact overlaid_none (lower.at? path)
  | some leaf =>
    cases lower.at? path with
    | none => rfl
    | some held => exact congrArg some (merge_of_leaf (hhigher.noTable leaf hat) held)

lemma isTable_merge {higher : Setting} (h : isTable higher = true) (lower : Setting) :
    isTable (lower.merge higher) = true := by
  obtain ⟨source, entries, rfl⟩ := exists_entries_of_isTable h
  cases lower with
  | table source' lower => rw [merge_tables, isTable]
  | nothing | text | char | bool | natural | signed | fraction | list => rfl

/-- A table on the way to a leaf stays one. -/
lemma isTable_at_merge {path way : List String} {lower higher held : Setting} (hway : way <+: path)
    (hne : way ≠ path) (hlower : Passable path lower) (hhigher : Passable path higher)
    (horder : InKeyOrder higher) (hheld : lower.at? way = some held) :
    ∃ merged, (lower.merge higher).at? way = some merged ∧ isTable merged = true := by
  rw [at_merge (hlower.of_prefix hway) (hhigher.of_prefix hway) horder, hheld]
  cases hat : higher.at? way with
  | none => exact ⟨held, rfl, hlower way held hway hne hheld⟩
  | some edit => exact ⟨held.merge edit, rfl, isTable_merge (hhigher way edit hway hne hat) held⟩

lemma passable_merge {path : List String} {lower higher : Setting} (hlower : Passable path lower)
    (hhigher : Passable path higher) (horder : InKeyOrder higher) : Passable path (lower.merge higher) := by
  intro way setting hway hne hat
  rw [at_merge (hlower.of_prefix hway) (hhigher.of_prefix hway) horder] at hat
  cases hheld : lower.at? way with
  | none =>
    rw [hheld, none_overlaid] at hat
    exact hhigher way setting hway hne hat
  | some held =>
    obtain ⟨merged, hmerged, htable⟩ := isTable_at_merge hway hne hlower hhigher horder hheld
    rw [at_merge (hlower.of_prefix hway) (hhigher.of_prefix hway) horder] at hmerged
    exact Option.some.inj (hmerged.symm.trans hat) ▸ htable

end PodLayers.Proofs
