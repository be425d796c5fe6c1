import Mathlib.Data.List.Induction
import Mathlib.Data.List.Nodup

/-!
# First occurrences

A list whose repetitions are erased keeps every item at its first occurrence. One item then stands before
another when it stood before the first occurrence of that one.
-/

namespace PodLayers.Proofs

variable {α : Type} [DecidableEq α]

lemma eraseDups_concat (items : List α) (a : α) :
    (items ++ [a]).eraseDups = if a ∈ items then items.eraseDups else items.eraseDups ++ [a] := by
  rw [List.eraseDups_append]
  by_cases h : a ∈ items <;> simp [List.removeAll, List.eraseDups_cons, h]

lemma nodup_eraseDups (items : List α) : items.eraseDups.Nodup := by
  induction items using List.reverseRecOn with
  | nil => exact List.nodup_nil
  | append_singleton items a ih =>
    rw [eraseDups_concat]
    by_cases h : a ∈ items
    · rwa [if_pos h]
    · have ha : a ∉ items.eraseDups := fun hmem => h (List.mem_eraseDups.1 hmem)
      rw [if_neg h, ← List.concat_eq_append]
      exact ih.concat ha

lemma eraseDups_of_nodup {items : List α} (h : items.Nodup) : items.eraseDups = items := by
  induction items using List.reverseRecOn with
  | nil => rfl
  | append_singleton items a ih =>
    obtain ⟨hitems, -, hapart⟩ := List.nodup_append.1 h
    have ha : a ∉ items := fun hmem => hapart a hmem a (List.mem_singleton_self a) rfl
    rw [eraseDups_concat, if_neg ha, ih hitems]

lemma eraseDups_append_left (items more : List α) :
    (items.eraseDups ++ more).eraseDups = (items ++ more).eraseDups := by
  induction more using List.reverseRecOn with
  | nil => rw [List.append_nil, List.append_nil, eraseDups_of_nodup (nodup_eraseDups items)]
  | append_singleton more a ih =>
    rw [← List.append_assoc, ← List.append_assoc, eraseDups_concat, eraseDups_concat, ih]
    simp only [List.mem_append, List.mem_eraseDups]

lemma eraseDups_append_right (items more : List α) :
    (items ++ more.eraseDups).eraseDups = (items ++ more).eraseDups := by
  induction more using List.reverseRecOn with
  | nil => rfl
  | append_singleton more a ih =>
    rw [← List.append_assoc, eraseDups_concat, eraseDups_concat]
    by_cases ha : a ∈ more
    · rw [if_pos ha, if_pos (List.mem_append_right _ ha), ih]
    · rw [if_neg ha, ← List.append_assoc, eraseDups_concat, ih]
      simp only [List.mem_append, List.mem_eraseDups]

lemma eraseDups_prefix (items more : List α) : items.eraseDups <+: (items ++ more).eraseDups := by
  rw [List.eraseDups_append]
  exact List.prefix_append _ _

/-- A fold that adds an item at the end, unless it is there, has every item where it first occurs. -/
lemma foldl_eraseDups {β γ : Type} {step : β → γ → β} {items : β → List α} {item : γ → α}
    (hstep : ∀ b c, items (step b c) = if item c ∈ items b then items b else items b ++ [item c]) {start : β}
    (hd : (items start).Nodup) (more : List γ) :
    items (more.foldl step start) = (items start ++ more.map item).eraseDups := by
  induction more using List.reverseRecOn with
  | nil => rw [List.map_nil, List.append_nil, eraseDups_of_nodup hd, List.foldl_nil]
  | append_singleton more c ih =>
    rw [List.foldl_concat, hstep, List.map_append, List.map_cons, List.map_nil, ← List.append_assoc,
      eraseDups_concat, ih]
    simp only [List.mem_eraseDups]

lemma takeWhile_ne_eq {before : List α} {b : α} (h : b ∉ before) (after : List α) :
    (before ++ b :: after).takeWhile (fun c => c ≠ b) = before := by
  rw [List.takeWhile_append_of_pos, List.takeWhile_cons_of_neg (by simp), List.append_nil]
  intro c hc
  simpa using fun heq : c = b => h (heq ▸ hc)

lemma eraseDups_split {before : List α} {b : α} (h : b ∉ before) (after : List α) :
    ∃ rest, (before ++ b :: after).eraseDups = before.eraseDups ++ b :: rest ∧ b ∉ rest := by
  have hremove : (b :: after).removeAll before = b :: after.removeAll before := by
    simp [List.removeAll, h]
  refine ⟨_, by rw [List.eraseDups_append, hremove, List.eraseDups_cons], ?_⟩
  rw [List.mem_eraseDups]
  simp

lemma sublist_eraseDups_iff {items : List α} {a b : α} (hb : b ∈ items) :
    [a, b].Sublist items.eraseDups ↔ a ∈ items.takeWhile fun c => c ≠ b := by
  obtain ⟨before, after, rfl, hbefore⟩ := List.eq_append_cons_of_mem hb
  obtain ⟨rest, hsplit, hrest⟩ := eraseDups_split hbefore after
  rw [takeWhile_ne_eq hbefore, hsplit, ← List.mem_eraseDups]
  constructor
  · intro h
    obtain ⟨first, second, hitems, hfirst, hsecond⟩ := List.sublist_append_iff.1 h
    cases first with
    | cons c others =>
      obtain ⟨rfl, -⟩ := List.cons.inj hitems
      exact hfirst.mem List.mem_cons_self
    | nil =>
      -- both would stand from `b` on, and then `b` twice
      obtain rfl : [a, b] = second := hitems
      have hlater : b ∈ rest := by
        rcases List.sublist_cons_iff.1 hsecond with hlater | ⟨others, hothers, hlater⟩
        · exact hlater.mem (by simp)
        · obtain ⟨-, rfl⟩ := List.cons.inj hothers
          exact hlater.mem List.mem_cons_self
      exact absurd hlater hrest
  · intro ha
    exact (List.singleton_sublist.2 ha).append (List.singleton_sublist.2 List.mem_cons_self)

end PodLayers.Proofs
