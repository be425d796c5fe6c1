/-!
# Entries in key order

A mapping is a list of entries whose keys increase strictly, by the code points of the keys. The raw
operations on lists of entries serve trees of values, where the order is a predicate beside the tree;
`SortedMap` carries it in the type.
-/

namespace PodLayers

namespace Entries

variable {α β : Type}

/-- Keys increase strictly, so no key occurs twice. -/
def Sorted (entries : List (String × α)) : Prop :=
  entries.Pairwise fun a b => a.1 < b.1

def find? (key : String) : List (String × α) → Option α
  | [] => none
  | (k, a) :: rest => if k = key then some a else find? key rest

/-- Sets the value at a key; a new key goes to its place in the order. -/
def insert (key : String) (a : α) : List (String × α) → List (String × α)
  | [] => [(key, a)]
  | (k, b) :: rest =>
    if key < k then (key, a) :: (k, b) :: rest
    else if key = k then (key, a) :: rest
    else (k, b) :: insert key a rest

/-- Sets the value at a key where it stands; a new key goes to the end. -/
def assign (key : String) (a : α) : List (String × α) → List (String × α)
  | [] => [(key, a)]
  | (k, b) :: rest => if k = key then (k, a) :: rest else (k, b) :: assign key a rest

def erase (key : String) : List (String × α) → List (String × α)
  | [] => []
  | (k, b) :: rest => if k = key then rest else (k, b) :: erase key rest

/-- Sets every entry of `higher`, in their order. -/
def overlay (lower higher : List (String × α)) : List (String × α) :=
  higher.foldl (fun entries entry => insert entry.1 entry.2 entries) lower

/-- The sorted entries of a list in which the last entry of a key counts. -/
def ofList (entries : List (String × α)) : List (String × α) := overlay [] entries

def keys (entries : List (String × α)) : List String := entries.map Prod.fst

theorem mem_keys_insert {key k : String} {a : α} {entries : List (String × α)}
    (h : k ∈ keys (insert key a entries)) : k = key ∨ k ∈ keys entries := by
  induction entries with
  | nil => simpa [insert, keys] using h
  | cons head rest ih =>
    obtain ⟨k', b⟩ := head
    simp only [insert] at h
    split at h
    · simpa [keys] using h
    · split at h
      · rename_i heq
        subst heq
        simpa [keys] using h
      · simp only [keys, List.map_cons, List.mem_cons] at h ih ⊢
        rcases h with h | h
        · exact .inr (.inl h)
        · rcases ih h with h | h
          · exact .inl h
          · exact .inr (.inr h)

theorem sorted_cons {k : String} {b : α} {rest : List (String × α)} :
    Sorted ((k, b) :: rest) ↔ (∀ k' ∈ keys rest, k < k') ∧ Sorted rest := by
  simp [Sorted, keys, List.pairwise_cons]

theorem sorted_insert (key : String) (a : α) {entries : List (String × α)} (h : Sorted entries) :
    Sorted (insert key a entries) := by
  induction entries with
  | nil => simp [insert, Sorted]
  | cons head rest ih =>
    obtain ⟨k, b⟩ := head
    have ⟨hk, hrest⟩ := sorted_cons.1 h
    simp only [insert]
    split
    · rename_i hlt
      refine sorted_cons.2 ⟨?_, h⟩
      intro k' hk'
      simp only [keys, List.map_cons, List.mem_cons] at hk'
      rcases hk' with rfl | hk'
      · exact hlt
      · exact String.lt_trans hlt (hk k' hk')
    · split
      · rename_i heq
        subst heq
        exact sorted_cons.2 ⟨hk, hrest⟩
      · rename_i hnlt hne
        have hlt : k < key := by
          have hle := String.not_lt.1 hnlt
          rcases Decidable.em (k < key) with hlt | hlt
          · exact hlt
          · exact absurd (String.le_antisymm (String.not_lt.1 hlt) hle) hne
        refine sorted_cons.2 ⟨?_, ih hrest⟩
        intro k' hk'
        rcases mem_keys_insert hk' with rfl | hk'
        · exact hlt
        · exact hk k' hk'

theorem sorted_overlay {lower : List (String × α)} (higher : List (String × α)) (h : Sorted lower) :
    Sorted (overlay lower higher) := by
  induction higher generalizing lower with
  | nil => exact h
  | cons entry rest ih => exact ih (sorted_insert entry.1 entry.2 h)

theorem sorted_ofList (entries : List (String × α)) : Sorted (ofList entries) :=
  sorted_overlay entries List.Pairwise.nil

theorem sublist_erase (key : String) (entries : List (String × α)) :
    (erase key entries).Sublist entries := by
  induction entries with
  | nil => exact List.Sublist.slnil
  | cons head rest ih =>
    obtain ⟨k, b⟩ := head
    simp only [erase]
    split
    · exact List.sublist_cons_self _ _
    · exact ih.cons_cons _

theorem sorted_erase (key : String) {entries : List (String × α)} (h : Sorted entries) :
    Sorted (erase key entries) :=
  h.sublist (sublist_erase key entries)

end Entries

/-- A mapping from strings, its entries in the order of their keys. -/
structure SortedMap (α : Type) where
  entries : List (String × α)
  sorted : Entries.Sorted entries

namespace SortedMap

variable {α : Type}

instance [DecidableEq α] : DecidableEq (SortedMap α) := fun a b =>
  if h : a.entries = b.entries then
    isTrue (by cases a; cases b; cases h; rfl)
  else isFalse (by intro e; exact h (e ▸ rfl))

def empty : SortedMap α := ⟨[], List.Pairwise.nil⟩

instance : Inhabited (SortedMap α) := ⟨empty⟩

def isEmpty (map : SortedMap α) : Bool := map.entries.isEmpty

def find? (map : SortedMap α) (key : String) : Option α := Entries.find? key map.entries

def insert (key : String) (a : α) (map : SortedMap α) : SortedMap α :=
  ⟨Entries.insert key a map.entries, Entries.sorted_insert key a map.sorted⟩

/-- The last entry of a key counts. -/
def ofList (entries : List (String × α)) : SortedMap α :=
  ⟨Entries.ofList entries, Entries.sorted_ofList entries⟩

/-- Both maps together; `higher` decides on shared keys. -/
def overlay (lower higher : SortedMap α) : SortedMap α :=
  ⟨Entries.overlay lower.entries higher.entries, Entries.sorted_overlay _ lower.sorted⟩

end SortedMap

end PodLayers
