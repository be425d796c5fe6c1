import Mathlib.Data.List.Basic
import PodLayers.Value.Entries

/-!
# Entries seen through their keys

Every operation on a list of entries is described by what `Entries.find?` answers afterwards. Erasing and
laying one list over another need distinct keys, which sorted entries have.
-/

namespace PodLayers.Proofs
open Entries

variable {α β : Type}

lemma find_cons (key k : String) (a : α) (entries : List (String × α)) :
    find? key ((k, a) :: entries) = if k = key then some a else find? key entries := rfl

lemma find_eq_none_iff (key : String) (entries : List (String × α)) :
    find? key entries = none ↔ key ∉ keys entries := by
  induction entries with
  | nil => simp [find?, keys]
  | cons head rest ih =>
    obtain ⟨k, a⟩ := head
    by_cases hk : k = key
    · simp [find_cons, keys, hk]
    · have hk' : ¬key = k := fun h => hk h.symm
      rw [find_cons, if_neg hk, ih]
      simp [keys, hk']

lemma find_isSome_iff (key : String) (entries : List (String × α)) :
    (find? key entries).isSome ↔ key ∈ keys entries := by
  rw [← not_iff_not, ← find_eq_none_iff]
  simp

lemma mem_of_find {key : String} {a : α} {entries : List (String × α)}
    (h : find? key entries = some a) : (key, a) ∈ entries := by
  induction entries with
  | nil => simp [find?] at h
  | cons head rest ih =>
    obtain ⟨k, b⟩ := head
    rw [find_cons] at h
    by_cases hk : k = key
    · rw [if_pos hk, Option.some.injEq] at h
      simp [hk, h]
    · rw [if_neg hk] at h
      exact List.mem_cons_of_mem _ (ih h)

lemma find_of_mem {key : String} {a : α} {entries : List (String × α)} (hd : (keys entries).Nodup)
    (h : (key, a) ∈ entries) : find? key entries = some a := by
  induction entries with
  | nil => simp at h
  | cons head rest ih =>
    obtain ⟨k, b⟩ := head
    obtain ⟨hk, hrest⟩ : k ∉ keys rest ∧ (keys rest).Nodup := by simpa [keys] using hd
    rw [find_cons]
    rcases List.mem_cons.1 h with h | h
    · obtain ⟨rfl, rfl⟩ := Prod.mk.inj h
      exact if_pos rfl
    · have hne : ¬k = key := by
        intro e
        exact hk (e ▸ List.mem_map_of_mem (f := Prod.fst) h)
      rw [if_neg hne, ih hrest h]

lemma find_map (f : α → β) (key : String) (entries : List (String × α)) :
    find? key (entries.map fun entry => (entry.1, f entry.2)) = (find? key entries).map f := by
  induction entries with
  | nil => rfl
  | cons head rest ih =>
    obtain ⟨k, a⟩ := head
    rw [List.map_cons, find_cons, find_cons, ih]
    split <;> simp

lemma keys_map (f : α → β) (entries : List (String × α)) :
    keys (entries.map fun entry => (entry.1, f entry.2)) = keys entries := by
  simp [keys]

lemma find_filter_key (stays : String → Bool) (key : String) (entries : List (String × α)) :
    find? key (entries.filter fun entry => stays entry.1) =
      if stays key then find? key entries else none := by
  induction entries with
  | nil => simp [find?]
  | cons head rest ih =>
    obtain ⟨k, a⟩ := head
    rw [List.filter_cons, find_cons]
    by_cases hk : k = key
    · subst hk
      cases hstays : stays k with
      | true => simp [find_cons]
      | false => simp [ih, hstays]
    · cases hstays : stays k with
      | true => simp [find_cons, hk, ih]
      | false => simp [hk, ih]

lemma find_map_key (changed : String) (f : α → α) (key : String) (entries : List (String × α)) :
    find? key (entries.map fun entry => if entry.1 = changed then (entry.1, f entry.2) else entry) =
      if key = changed then (find? key entries).map f else find? key entries := by
  induction entries with
  | nil => simp [find?]
  | cons head rest ih =>
    obtain ⟨k, a⟩ := head
    rw [List.map_cons, find_cons]
    by_cases hchanged : k = changed
    · rw [if_pos hchanged, find_cons, ih]
      by_cases hk : k = key
      · simp [hk, ← hchanged]
      · simp [hk]
    · rw [if_neg hchanged, find_cons, ih]
      by_cases hk : k = key
      · subst hk
        simp [hchanged]
      · simp [hk]

/-- The first finding depends on what is found in the items of the list only. -/
lemma findSome_congr {f g : α → Option β} {items : List α} (h : ∀ a ∈ items, f a = g a) :
    items.findSome? f = items.findSome? g := by
  rw [← List.head?_filterMap, ← List.head?_filterMap, List.filterMap_congr h]

lemma sorted_nodup {entries : List (String × α)} (h : Sorted entries) : (keys entries).Nodup := by
  rw [keys, List.Nodup, List.pairwise_map]
  exact h.imp fun hlt => String.ne_of_lt hlt

/-! ## Setting an entry -/

lemma find_assign (key k : String) (a : α) (entries : List (String × α)) :
    find? k (assign key a entries) = if key = k then some a else find? k entries := by
  induction entries with
  | nil => rfl
  | cons head rest ih =>
    obtain ⟨k', b⟩ := head
    rw [assign]
    by_cases hk : k' = key
    · subst hk
      rw [if_pos rfl, find_cons, find_cons]
      split <;> rfl
    · rw [if_neg hk, find_cons, find_cons, ih]
      by_cases hkey : key = k
      · subst hkey
        simp [hk]
      · simp [hkey]

lemma assign_of_find_none {key : String} {a : α} {entries : List (String × α)}
    (h : find? key entries = none) : assign key a entries = entries ++ [(key, a)] := by
  induction entries with
  | nil => rfl
  | cons head rest ih =>
    obtain ⟨k, b⟩ := head
    rw [find_cons] at h
    by_cases hk : k = key
    · simp [hk] at h
    · rw [if_neg hk] at h
      rw [assign, if_neg hk, ih h, List.cons_append]

lemma keys_assign (key : String) (a : α) (entries : List (String × α)) :
    keys (assign key a entries) =
      if key ∈ keys entries then keys entries else keys entries ++ [key] := by
  induction entries with
  | nil => rfl
  | cons head rest ih =>
    obtain ⟨k, b⟩ := head
    rw [assign]
    by_cases hk : k = key
    · simp [keys, hk]
    · have hk' : ¬key = k := fun h => hk h.symm
      have hcons : keys ((k, b) :: assign key a rest) = k :: keys (assign key a rest) := rfl
      rw [if_neg hk, hcons, ih]
      by_cases hmem : key ∈ keys rest
      · rw [if_pos hmem, if_pos (by simpa [keys] using Or.inr hmem)]
        rfl
      · rw [if_neg hmem, if_neg (by simpa [keys, hk'] using hmem)]
        rfl

lemma mem_assign {key : String} {a : α} {entry : String × α} {entries : List (String × α)}
    (h : entry ∈ assign key a entries) : entry = (key, a) ∨ entry ∈ entries := by
  induction entries with
  | nil => simpa [assign] using h
  | cons head rest ih =>
    obtain ⟨k, b⟩ := head
    rw [assign] at h
    by_cases hk : k = key
    · rw [if_pos hk, List.mem_cons, hk] at h
      exact h.imp_right (List.mem_cons_of_mem _)
    · rw [if_neg hk, List.mem_cons] at h
      rcases h with h | h
      · exact .inr (by simp [h])
      · exact (ih h).imp_right (List.mem_cons_of_mem _)

lemma find_insert (key k : String) (a : α) (entries : List (String × α)) :
    find? k (Entries.insert key a entries) = if key = k then some a else find? k entries := by
  induction entries with
  | nil => rfl
  | cons head rest ih =>
    obtain ⟨k', b⟩ := head
    rw [Entries.insert]
    by_cases hlt : key < k'
    · rw [if_pos hlt, find_cons]
    · by_cases hk : key = k'
      · subst hk
        rw [if_neg hlt, if_pos rfl, find_cons, find_cons]
        split <;> rfl
      · rw [if_neg hlt, if_neg hk, find_cons, find_cons, ih]
        by_cases hkey : key = k
        · subst hkey
          simp [Ne.symm hk]
        · simp [hkey]

lemma mem_insert {key : String} {a : α} {entry : String × α} {entries : List (String × α)}
    (h : entry ∈ Entries.insert key a entries) : entry = (key, a) ∨ entry ∈ entries := by
  induction entries with
  | nil => simpa [Entries.insert] using h
  | cons head rest ih =>
    obtain ⟨k, b⟩ := head
    rw [Entries.insert] at h
    split at h
    · exact List.mem_cons.1 h
    · split at h
      · rcases List.mem_cons.1 h with h | h
        · exact .inl h
        · exact .inr (List.mem_cons_of_mem _ h)
      · rcases List.mem_cons.1 h with h | h
        · exact .inr (h ▸ List.mem_cons_self)
        · exact (ih h).imp_right (List.mem_cons_of_mem _)

lemma find_erase {entries : List (String × α)} (hd : (keys entries).Nodup) (key k : String) :
    find? k (erase key entries) = if key = k then none else find? k entries := by
  induction entries with
  | nil => simp [erase, find?]
  | cons head rest ih =>
    obtain ⟨k', b⟩ := head
    obtain ⟨hk', hrest⟩ : k' ∉ keys rest ∧ (keys rest).Nodup := by simpa [keys] using hd
    rw [erase]
    by_cases hk : k' = key
    · subst hk
      rw [if_pos rfl, find_cons]
      by_cases hkey : k' = k
      · rw [if_pos hkey, find_eq_none_iff, ← hkey]
        exact hk'
      · rw [if_neg hkey, if_neg hkey]
    · rw [if_neg hk, find_cons, find_cons, ih hrest]
      by_cases hkey : key = k
      · subst hkey
        simp [hk]
      · simp [hkey]

lemma mem_erase {entries : List (String × α)} (hd : (keys entries).Nodup) {key : String}
    {entry : String × α} (h : entry ∈ entries) (hkey : entry.1 ≠ key) : entry ∈ erase key entries := by
  have hfind : find? entry.1 (erase key entries) = some entry.2 := by
    rw [find_erase hd, if_neg (Ne.symm hkey)]
    exact find_of_mem hd h
  exact mem_of_find hfind

lemma mem_overlay {entry : String × α} {lower higher : List (String × α)}
    (h : entry ∈ Entries.overlay lower higher) : entry ∈ lower ∨ entry ∈ higher := by
  induction higher generalizing lower with
  | nil => exact .inl h
  | cons head rest ih =>
    rcases ih h with hinsert | hrest
    · rcases mem_insert hinsert with rfl | hlower
      · exact .inr List.mem_cons_self
      · exact .inl hlower
    · exact .inr (List.mem_cons_of_mem _ hrest)

lemma mem_ofList {entry : String × α} {entries : List (String × α)} (h : entry ∈ Entries.ofList entries) :
    entry ∈ entries := (mem_overlay h).resolve_left List.not_mem_nil

/-- The higher entries decide on their keys. -/
lemma find_overlay {higher : List (String × α)} (hd : (keys higher).Nodup)
    (lower : List (String × α)) (key : String) :
    find? key (Entries.overlay lower higher) = (find? key higher).or (find? key lower) := by
  induction higher generalizing lower with
  | nil => simp [Entries.overlay, find?]
  | cons head rest ih =>
    obtain ⟨k, a⟩ := head
    obtain ⟨hk, hrest⟩ : k ∉ keys rest ∧ (keys rest).Nodup := by simpa [keys] using hd
    have hstep : Entries.overlay lower ((k, a) :: rest) =
        Entries.overlay (Entries.insert k a lower) rest := rfl
    rw [hstep, ih hrest, find_insert, find_cons]
    by_cases hkey : k = key
    · subst hkey
      simp [(find_eq_none_iff k rest).2 hk]
    · simp [hkey]

lemma sortedMap_find_overlay (lower higher : SortedMap α) (key : String) :
    (lower.overlay higher).find? key = (higher.find? key).or (lower.find? key) :=
  find_overlay (sorted_nodup higher.sorted) lower.entries key

end PodLayers.Proofs
