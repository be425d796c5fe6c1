import PodLayers.Proofs.EntryLookup
import PodLayers.Value.Document

/-!
# Documents, path by path

An edit is read along a path of keys: the walk ends at a value, at something that is no mapping, or at a
mapping without the next key. In the last case the edit leaves the path alone; otherwise it decides what
stands there. Of a stack of edits the last one whose walk does not miss the path decides.
-/

namespace PodLayers.Proofs
open Entries

/-! ## Key order is kept -/

lemma orderedEntries_iff (entries : List (String × Value)) :
    Value.OrderedEntries entries ↔ ∀ entry ∈ entries, entry.2.Ordered := by
  induction entries with
  | nil => simp [Value.OrderedEntries]
  | cons head rest ih =>
    obtain ⟨key, v⟩ := head
    simp [Value.OrderedEntries, ih]

lemma ordered_of_find {entries : List (String × Value)} (h : Value.OrderedEntries entries)
    {key : String} {v : Value} (hv : find? key entries = some v) : v.Ordered :=
  (orderedEntries_iff entries).1 h (key, v) (mem_of_find hv)

lemma orderedEntries_insert {key : String} {v : Value} {entries : List (String × Value)}
    (hv : v.Ordered) (h : Value.OrderedEntries entries) :
    Value.OrderedEntries (Entries.insert key v entries) := by
  rw [orderedEntries_iff] at h ⊢
  intro entry hentry
  rcases mem_insert hentry with rfl | hentry
  · exact hv
  · exact h entry hentry

lemma orderedEntries_erase {entries : List (String × Value)} (key : String)
    (h : Value.OrderedEntries entries) : Value.OrderedEntries (erase key entries) := by
  rw [orderedEntries_iff] at h ⊢
  exact fun entry hentry => h entry ((sublist_erase key entries).subset hentry)

lemma exists_entries {v : Value} (h : v.isMapping = true) : ∃ entries, v = .mapping entries := by
  cases v with
  | mapping entries => exact ⟨entries, rfl⟩
  | null | bool | number | text | list => cases h

lemma ordered_entries {v : Value} (h : v.Ordered) : Sorted v.entries ∧ Value.OrderedEntries v.entries := by
  cases v with
  | mapping entries => exact h
  | null | bool | number | text | list => exact ⟨List.Pairwise.nil, trivial⟩

lemma ordered_getD {entries : List (String × Value)} (h : Value.OrderedEntries entries) (key : String) :
    ((find? key entries).getD .null).Ordered := by
  cases hv : find? key entries with
  | none => trivial
  | some v => exact ordered_of_find h hv

/-- Induction on a document along its mappings; lists and scalars are leaves. -/
@[elab_as_elim]
lemma mapping_induction {P : Value → Prop} (leaf : ∀ v, v.isMapping = false → P v)
    (mapping : ∀ entries, (∀ entry ∈ entries, P entry.2) → P (.mapping entries)) (v : Value) : P v := by
  match v with
  | .mapping entries => exact mapping entries fun entry hentry => mapping_induction leaf mapping entry.2
  | .null | .bool _ | .number _ | .text _ | .list _ => exact leaf _ rfl
termination_by sizeOf v
decreasing_by
  have hlt := List.sizeOf_lt_of_mem hentry
  obtain ⟨key, v⟩ := entry
  simp only [Value.mapping.sizeOf_spec, Prod.mk.sizeOf_spec] at hlt ⊢
  omega

mutual

theorem ordered_merge (lower edit : Value) (hl : lower.Ordered) (he : edit.Ordered) :
    (lower.merge edit).Ordered := by
  cases edit with
  | mapping edits =>
    exact ordered_mergeEntries lower.entries edits (ordered_entries hl) he.2
  | null | bool | number | text | list => exact he

theorem ordered_mergeEntries (target edits : List (String × Value))
    (ht : Sorted target ∧ Value.OrderedEntries target) (he : Value.OrderedEntries edits) :
    Sorted (Value.mergeEntries target edits) ∧
      Value.OrderedEntries (Value.mergeEntries target edits) := by
  match edits with
  | [] => exact ht
  | (key, edit) :: rest =>
    rw [Value.mergeEntries]
    split
    · exact ordered_mergeEntries _ rest
        ⟨sorted_erase key ht.1, orderedEntries_erase key ht.2⟩ he.2
    · have hmerged := ordered_merge _ edit (ordered_getD ht.2 key) he.1
      exact ordered_mergeEntries _ rest
        ⟨sorted_insert key _ ht.1, orderedEntries_insert hmerged ht.2⟩ he.2

end

/-! ## One edit, one path -/

/-- Where the walk of a value along a path ends. -/
inductive Walk
  /-- At a mapping that does not have the next key. -/
  | misses
  /-- At something other than a mapping, in front of the end of the path. -/
  | blocked
  | arrives (v : Value)

def walk (v : Value) : List String → Walk
  | [] => .arrives v
  | key :: path =>
    if v.isMapping then
      match v.get? key with
      | none => .misses
      | some inner => walk inner path
    else .blocked

/-- The walk ends at the end of the path, or at something that is no mapping. -/
def Touches (edit : Value) (path : List String) : Prop := walk edit path ≠ .misses

/-- What a path holds after an edit with this walk. -/
def Walk.Leaves : Walk → Option Value → Prop
  | .misses, _ => False
  | .blocked, held => held = none
  | .arrives .null, held => held = none
  | .arrives (.mapping _), held => ∃ entries, held = some (.mapping entries)
  | .arrives v, held => held = some v

lemma isMapping_of_get {v inner : Value} {key : String} (h : v.get? key = some inner) : v.isMapping = true := by
  cases v with
  | mapping => rfl
  | null | bool | number | text | list => cases h

lemma walk_cons {v inner : Value} {key : String} (h : v.get? key = some inner) (path : List String) :
    walk v (key :: path) = walk inner path := by
  have hm : v.isMapping = true := isMapping_of_get h
  simp [walk, hm, h]

lemma find_mergeEntries {edits : List (String × Value)} (he : (keys edits).Nodup)
    {target : List (String × Value)} (ht : Sorted target) (key : String) :
    find? key (Value.mergeEntries target edits) =
      match find? key edits with
      | none => find? key target
      | some edit => if edit.isNull then none else some (((find? key target).getD .null).merge edit) := by
  induction edits generalizing target with
  | nil => rfl
  | cons head rest ih =>
    obtain ⟨k, edit⟩ := head
    obtain ⟨hk, hrest⟩ : k ∉ keys rest ∧ (keys rest).Nodup := by simpa [keys] using he
    have hnone := (find_eq_none_iff k rest).2 hk
    rw [Value.mergeEntries, find_cons]
    by_cases hnull : edit.isNull = true
    · rw [if_pos hnull, ih hrest (sorted_erase k ht), find_erase (sorted_nodup ht)]
      by_cases hkey : k = key
      · subst hkey
        simp [hnone, hnull]
      · simp [hkey]
    · rw [if_neg hnull, ih hrest (sorted_insert k _ ht), find_insert]
      by_cases hkey : k = key
      · subst hkey
        simp [hnone, hnull]
      · simp [hkey]

lemma ordered_get {v : Value} (h : v.Ordered) (key : String) : ((v.get? key).getD .null).Ordered :=
  ordered_getD (ordered_entries h).2 key

lemma get_merge_mapping {edits : List (String × Value)} (he : Sorted edits) {lower : Value}
    (hl : lower.Ordered) (key : String) :
    (lower.merge (.mapping edits)).get? key =
      match find? key edits with
      | none => lower.get? key
      | some edit => if edit.isNull then none else some (((lower.get? key).getD .null).merge edit) :=
  find_mergeEntries (sorted_nodup he) (ordered_entries hl).1 key

lemma walk_null (path : List String) : Touches .null path := by
  cases path <;> simp [Touches, walk, Value.isMapping]

lemma at_merge_of_misses {lower edit : Value} (hl : lower.Ordered) (he : edit.Ordered)
    {path : List String} (hmiss : walk edit path = .misses) :
    (lower.merge edit).at? path = lower.at? path := by
  induction path generalizing lower edit with
  | nil => simp [walk] at hmiss
  | cons key path ih =>
    cases edit with
    | null | bool | number | text | list => simp [walk, Value.isMapping] at hmiss
    | mapping edits =>
      rw [Value.at?, get_merge_mapping he.1 hl, Value.at?]
      cases hfind : find? key edits with
      | none => rfl
      | some inner =>
        rw [walk_cons (v := .mapping edits) hfind path] at hmiss
        have hnull : ¬inner.isNull = true := by
          intro h
          cases inner <;> first | exact walk_null path hmiss | simp [Value.isNull] at h
        simp only [if_neg hnull, Option.bind_some]
        have hinner := ordered_of_find he.2 hfind
        rw [ih (ordered_get hl key) hinner hmiss]
        cases hlower : lower.get? key with
        | some v => rfl
        | none =>
          -- the walk of `inner` misses, so the path goes on below this key
          cases path with
          | nil => simp [walk] at hmiss
          | cons next path => rfl

lemma leaves_merge {lower edit : Value} (hl : lower.Ordered) (he : edit.Ordered) {path : List String}
    (hpath : path ≠ []) (htouch : Touches edit path) :
    (walk edit path).Leaves ((lower.merge edit).at? path) := by
  induction path generalizing lower edit with
  | nil => exact absurd rfl hpath
  | cons key path ih =>
    cases edit with
    | null | bool | number | text | list => rfl
    | mapping edits =>
      rw [Value.at?, get_merge_mapping he.1 hl]
      cases hfind : find? key edits with
      | none => exact absurd (by simp [walk, Value.isMapping, Value.get?, Value.entries, hfind]) htouch
      | some inner =>
        have hwalk := walk_cons (v := .mapping edits) hfind path
        rw [Touches, hwalk] at htouch
        rw [hwalk]
        have hinner := ordered_of_find he.2 hfind
        have hbelow := ordered_get hl key
        cases path with
        | nil => cases inner <;> first | rfl | exact ⟨_, rfl⟩
        | cons next path =>
          cases hnull : inner.isNull with
          | true => cases inner <;> first | rfl | simp [Value.isNull] at hnull
          | false =>
            simp only [hnull, Bool.false_eq_true, if_false, Option.bind_some]
            exact ih hbelow hinner (by simp) htouch

/-! ## Stacks of edits -/

lemma ordered_foldl_merge {edits : List Value} (he : ∀ edit ∈ edits, edit.Ordered) {doc : Value}
    (hd : doc.Ordered) : (edits.foldl Value.merge doc).Ordered := by
  induction edits generalizing doc with
  | nil => exact hd
  | cons edit rest ih =>
    exact ih (fun later h => he later (List.mem_cons_of_mem _ h))
      (ordered_merge doc edit hd (he edit List.mem_cons_self))

lemma mergeAll_append (front back : List Value) :
    Value.mergeAll (front ++ back) = back.foldl Value.merge (Value.mergeAll front) :=
  List.foldl_append

lemma ordered_emptyDocument : Value.emptyDocument.Ordered := ⟨List.Pairwise.nil, trivial⟩

lemma at_foldl_of_misses {edits : List Value} (he : ∀ edit ∈ edits, edit.Ordered) {path : List String}
    (hmiss : ∀ edit ∈ edits, ¬Touches edit path) {doc : Value} (hd : doc.Ordered) :
    (edits.foldl Value.merge doc).at? path = doc.at? path := by
  induction edits generalizing doc with
  | nil => rfl
  | cons edit rest ih =>
    have hedit := he edit List.mem_cons_self
    rw [List.foldl_cons, ih (fun later h => he later (List.mem_cons_of_mem _ h))
      (fun later h => hmiss later (List.mem_cons_of_mem _ h)) (ordered_merge doc edit hd hedit)]
    exact at_merge_of_misses hd hedit (not_not.1 (hmiss edit List.mem_cons_self))

lemma last_touching {path : List String} (edits : List Value) (h : ¬∀ edit ∈ edits, ¬Touches edit path) :
    ∃ before edit after, edits = before ++ edit :: after ∧ Touches edit path ∧
      ∀ later ∈ after, ¬Touches later path := by
  induction edits with
  | nil => simp at h
  | cons head rest ih =>
    by_cases hrest : ∀ edit ∈ rest, ¬Touches edit path
    · refine ⟨[], head, rest, rfl, ?_, hrest⟩
      by_contra hhead
      exact h (List.forall_mem_cons.2 ⟨hhead, hrest⟩)
    · obtain ⟨before, edit, after, rfl, htouch, hafter⟩ := ih hrest
      exact ⟨head :: before, edit, after, rfl, htouch, hafter⟩

/-- The last edit that touches a path decides what stands there; without one nothing does. In particular
the user's document, merged last, decides wherever it touches and leaves everything else alone. -/
theorem mergeAll_at (edits : List Value) (he : ∀ edit ∈ edits, edit.Ordered) (path : List String)
    (hpath : path ≠ []) :
    (((∀ edit ∈ edits, ¬Touches edit path) ∧ (Value.mergeAll edits).at? path = none) ∨
      ∃ before edit after, edits = before ++ edit :: after ∧ Touches edit path ∧
        (∀ later ∈ after, ¬Touches later path) ∧
        (walk edit path).Leaves ((Value.mergeAll edits).at? path)) ∧
    ∀ vars : Value, vars.Ordered →
      (Touches vars path → (walk vars path).Leaves ((Value.mergeAll (edits ++ [vars])).at? path)) ∧
      (¬Touches vars path →
        (Value.mergeAll (edits ++ [vars])).at? path = (Value.mergeAll edits).at? path) := by
  have hmerged (front : List Value) (h : ∀ edit ∈ front, edit.Ordered) :
      (Value.mergeAll front).Ordered := ordered_foldl_merge h ordered_emptyDocument
  refine ⟨?_, fun vars hvars => ?_⟩
  · by_cases hmiss : ∀ edit ∈ edits, ¬Touches edit path
    · refine .inl ⟨hmiss, ?_⟩
      rw [Value.mergeAll, at_foldl_of_misses he hmiss ordered_emptyDocument]
      cases path with
      | nil => exact absurd rfl hpath
      | cons key path => rfl
    · obtain ⟨before, edit, after, rfl, htouch, hafter⟩ := last_touching edits hmiss
      simp only [List.mem_append, List.mem_cons] at he
      have hbefore := hmerged before fun e h => he e (.inl h)
      have hedit := he edit (.inr (.inl rfl))
      refine .inr ⟨before, edit, after, rfl, htouch, hafter, ?_⟩
      rw [mergeAll_append, List.foldl_cons,
        at_foldl_of_misses (fun e h => he e (.inr (.inr h))) hafter (ordered_merge _ edit hbefore hedit)]
      exact leaves_merge hbefore hedit hpath htouch
  · rw [mergeAll_append, List.foldl_cons, List.foldl_nil]
    exact ⟨fun htouch => leaves_merge (hmerged edits he) hvars hpath htouch,
      fun hmiss => at_merge_of_misses (hmerged edits he) hvars (not_not.1 hmiss)⟩

/-- A subtree is removed and then opened again by an edit that does not name the old path. -/
def reopened : List Value := [
  .mapping [("ssl", .mapping [("mode", .text "none")])],
  .mapping [("ssl", .null)],
  .mapping [("ssl", .mapping [("ca", .list [.text "a.pem"])])]]

def otherAuthority : Value := .mapping [("ssl", .mapping [("ca", .text "b.pem")])]

theorem mergeAll_at_reopened :
    (∀ edit ∈ reopened, edit.Ordered) ∧ otherAuthority.Ordered ∧
      Touches otherAuthority ["ssl", "ca"] ∧ ¬Touches otherAuthority ["ssl", "mode"] ∧
      (walk otherAuthority ["ssl", "ca"]).Leaves
        ((Value.mergeAll (reopened ++ [otherAuthority])).at? ["ssl", "ca"]) ∧
      (Value.mergeAll (reopened ++ [otherAuthority])).at? ["ssl", "mode"] =
        (Value.mergeAll reopened).at? ["ssl", "mode"] := by
  have hordered : ∀ edit ∈ reopened, edit.Ordered := by
    simp [reopened, Value.Ordered, Value.OrderedEntries, Value.OrderedItems, Sorted]
  have hvars : otherAuthority.Ordered := by
    simp [otherAuthority, Value.Ordered, Value.OrderedEntries, Sorted]
  have htouch : Touches otherAuthority ["ssl", "ca"] := by
    intro h
    cases h
  have hmiss : ¬Touches otherAuthority ["ssl", "mode"] := fun h => h rfl
  exact ⟨hordered, hvars, htouch, hmiss,
    ((mergeAll_at reopened hordered ["ssl", "ca"] (by simp)).2 otherAuthority hvars).1 htouch,
    ((mergeAll_at reopened hordered ["ssl", "mode"] (by simp)).2 otherAuthority hvars).2 hmiss⟩

end PodLayers.Proofs
