import PodLayers.Proofs.CoherentLists
import PodLayers.Proofs.FirstOccurrences
import PodLayers.Proofs.OverlayJoin

/-!
# Joins of named lists

A join has the names of both lists, each where it first occurs, and under each name what the two lists make
of it together. A coherent list is given by its names in their order and by what it has under them, so laws
of joins follow from laws of the entries.
-/

namespace PodLayers.Proofs
open Entries Joins

/-! ## Lists given by their lookups -/

section Lookup

variable {α : Type}

lemma eq_of_find {entries entries' : List (String × α)} (hd : (keys entries).Nodup)
    (hkeys : keys entries = keys entries') (hfind : ∀ key, find? key entries = find? key entries') :
    entries = entries' := by
  induction entries generalizing entries' with
  | nil => exact (List.map_eq_nil_iff.1 hkeys.symm).symm
  | cons head rest ih =>
    cases entries' with
    | nil => cases hkeys
    | cons head' rest' =>
      obtain ⟨k, a⟩ := head
      obtain ⟨k', a'⟩ := head'
      obtain ⟨rfl, hrest⟩ : k = k' ∧ keys rest = keys rest' := List.cons.inj hkeys
      obtain ⟨hk, hnodup⟩ : k ∉ keys rest ∧ (keys rest).Nodup := by simpa [keys] using hd
      have hk' : k ∉ keys rest' := hrest ▸ hk
      have ha : a = a' := by
        have hhead := hfind k
        rw [find_cons, find_cons, if_pos rfl, if_pos rfl] at hhead
        exact Option.some.inj hhead
      have htail (key : String) : find? key rest = find? key rest' := by
        by_cases hkey : k = key
        · rw [← hkey, (find_eq_none_iff k rest).2 hk, (find_eq_none_iff k rest').2 hk']
        · have htail := hfind key
          rwa [find_cons, find_cons, if_neg hkey, if_neg hkey] at htail
      rw [ha, ih hnodup hrest htail]

lemma sorted_eq_of_find {entries entries' : List (String × α)} (h : Sorted entries) (h' : Sorted entries')
    (hfind : ∀ key, find? key entries = find? key entries') : entries = entries' := by
  have hmem (key : String) : key ∈ keys entries ↔ key ∈ keys entries' := by
    rw [← find_isSome_iff, ← find_isSome_iff, hfind]
  have hperm : (keys entries).Perm (keys entries') :=
    (List.perm_ext_iff_of_nodup (sorted_nodup h) (sorted_nodup h')).2 hmem
  have hlt {list : List (String × α)} (hlist : Sorted list) : (keys list).Pairwise (· < ·) :=
    List.pairwise_map.2 hlist
  have hkeys : keys entries = keys entries' := by
    refine hperm.eq_of_pairwise ?_ (hlt h) (hlt h')
    intro key other _ _ hbefore hafter
    exact absurd hafter (String.lt_asymm hbefore)
  exact eq_of_find (sorted_nodup h) hkeys hfind

lemma sortedMap_eq_of_find {map map' : SortedMap α} (h : ∀ key, map.find? key = map'.find? key) :
    map = map' := by
  obtain ⟨entries, hsorted⟩ := map
  obtain ⟨entries', hsorted'⟩ := map'
  obtain rfl : entries = entries' := sorted_eq_of_find hsorted hsorted' h
  rfl

lemma namedList_eq_of_get {list list' : NamedList α} (hd : list.keys.Nodup) (hkeys : list.keys = list'.keys)
    (hget : ∀ key, list.get? key = list'.get? key) : list = list' := by
  obtain ⟨entries⟩ := list
  obtain ⟨entries'⟩ := list'
  exact congrArg NamedList.mk (eq_of_find hd hkeys hget)

end Lookup

/-! ## Names and entries of a join -/

section Joined

variable {α : Type} [Named α] [Layered α] [Joins α]

/-- Names stand where they first occur. -/
lemma keys_joinAll {list : NamedList α} (h : list.keys.Nodup) (items : List α) :
    (joinAll list items).keys = (list.keys ++ items.map Named.name).eraseDups :=
  foldl_eraseDups (fun list a => keys_assign (Named.name a) _ list.entries) h items

lemma keys_join {lower higher : NamedList α} (hlower : lower.Coherent) (hhigher : higher.Coherent) :
    (join lower higher).keys = (lower.keys ++ higher.keys).eraseDups := by
  rw [← names_toList hhigher]
  exact keys_joinAll hlower.1 higher.toList

lemma get_join (lower : NamedList α) {higher : NamedList α} (h : higher.Coherent) (key : String) :
    (join lower higher).get? key = Option.merge join (lower.get? key) (higher.get? key) := by
  have hget : (join lower higher).get? key =
      (higher.get? key).toList.foldl (fun held a => some (laidOver held a)) (lower.get? key) := by
    rw [← partsNamed_of_coherent h]
    exact get_joinAll lower higher.toList key
  rw [hget]
  cases lower.get? key <;> cases higher.get? key <;> rfl

variable [KeepsName α]

lemma coherent_joinEntry {list : NamedList α} (h : list.Coherent) (a : α) : (joinEntry list a).Coherent := by
  refine coherent_assign h ?_
  cases hget : list.get? (Named.name a) with
  | none => rfl
  | some lower =>
    have hname : Named.name lower = Named.name a := ((get_eq_some_iff h _ _).1 hget).2
    exact (KeepsName.name_join lower a).trans hname

lemma coherent_joinAll {list : NamedList α} (h : list.Coherent) (items : List α) :
    (joinAll list items).Coherent := by
  induction items generalizing list with
  | nil => exact h
  | cons a rest ih => exact ih (coherent_joinEntry h a)

lemma coherent_join {lower : NamedList α} (h : lower.Coherent) (higher : NamedList α) :
    (join lower higher).Coherent := coherent_joinAll h higher.toList

lemma empty_join_list {list : NamedList α} (h : list.Coherent) : join .empty list = list := by
  refine namedList_eq_of_get (coherent_join coherent_empty list).1 ?_ fun key => ?_
  · rw [keys_join coherent_empty h]
    exact eraseDups_of_nodup h.1
  · rw [get_join _ h]
    exact Option.merge_none_left

lemma forall_mem_join {P : α → Prop} {lower higher : NamedList α} (hlower : lower.Coherent)
    (hhigher : higher.Coherent) (hP : ∀ a ∈ lower.toList, P a) (hP' : ∀ a ∈ higher.toList, P a)
    (hjoin : ∀ a b, P a → P b → P (join a b)) : ∀ a ∈ (join lower higher).toList, P a := by
  intro a ha
  have hget := (get_eq_some_iff (coherent_join hlower higher) _ a).2 ⟨ha, rfl⟩
  rw [get_join _ hhigher] at hget
  cases hheld : lower.get? (Named.name a) with
  | none =>
    rw [hheld, Option.merge_none_left] at hget
    exact hP' a (mem_of_get hget)
  | some held =>
    cases hgiven : higher.get? (Named.name a) with
    | none =>
      rw [hheld, hgiven] at hget
      exact hP a (mem_of_get (hheld.trans hget))
    | some given =>
      rw [hheld, hgiven] at hget
      obtain rfl : join held given = a := Option.some.inj hget
      exact hjoin held given (hP held (mem_of_get hheld)) (hP' given (mem_of_get hgiven))

/-- Joins of lists are associative where those of their entries are. -/
lemma join_assoc_list {a b c : NamedList α} (ha : a.Coherent) (hb : b.Coherent) (hc : c.Coherent)
    (hentries : ∀ x ∈ a.toList, ∀ y ∈ b.toList, ∀ z ∈ c.toList, join (join x y) z = join x (join y z)) :
    join (join a b) c = join a (join b c) := by
  have hab : (join a b).Coherent := coherent_join ha b
  have hbc : (join b c).Coherent := coherent_join hb c
  refine namedList_eq_of_get (coherent_join hab c).1 ?_ fun key => ?_
  · rw [keys_join hab hc, keys_join ha hbc, keys_join ha hb, keys_join hb hc, eraseDups_append_left,
      eraseDups_append_right, List.append_assoc]
  · rw [get_join _ hc, get_join _ hbc, get_join _ hb, get_join _ hc]
    cases hx : a.get? key with
    | none => cases b.get? key <;> cases c.get? key <;> rfl
    | some x =>
      cases hy : b.get? key with
      | none => cases c.get? key <;> rfl
      | some y =>
        cases hz : c.get? key with
        | none => rfl
        | some z => exact congrArg some (hentries x (mem_of_get hx) y (mem_of_get hy) z (mem_of_get hz))

end Joined

end PodLayers.Proofs
