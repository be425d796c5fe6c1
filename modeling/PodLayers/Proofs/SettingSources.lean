import PodLayers.Proofs.SettingTrees

/-!
# Trees of settings that are read

Every tree that is merged into the settings has the keys of its tables in order: the defaults, the tree of a
file and the tree of the environment.
-/

namespace PodLayers.Proofs
open Entries Setting

lemma inKeyOrder_ofList (source : Source) {entries : List (String × Setting)}
    (h : ∀ entry ∈ entries, InKeyOrder entry.2) : InKeyOrder (.table source (Entries.ofList entries)) :=
  .table source (sorted_ofList entries) fun entry hentry => h entry (mem_ofList hentry)

lemma inKeyOrder_empty (source : Source) : InKeyOrder (.table source []) :=
  .table source List.Pairwise.nil fun _ h => absurd h List.not_mem_nil

/-! ## Merged trees -/

lemma inKeyOrder_mergeEntries {lower higher : List (String × Setting)} (hsorted : Sorted lower)
    (hlower : ∀ entry ∈ lower, InKeyOrder entry.2) (hhigher : ∀ entry ∈ higher, InKeyOrder entry.2)
    (hmerge : ∀ entry ∈ higher, ∀ held, InKeyOrder held → InKeyOrder (held.merge entry.2)) :
    Sorted (mergeEntries lower higher) ∧ ∀ entry ∈ mergeEntries lower higher, InKeyOrder entry.2 := by
  induction higher generalizing lower with
  | nil =>
    rw [mergeEntries]
    exact ⟨hsorted, hlower⟩
  | cons head rest ih =>
    obtain ⟨key, setting⟩ := head
    rw [mergeEntries_cons]
    have hmerged : InKeyOrder (((find? key lower).map fun held => held.merge setting).getD setting) := by
      cases hfind : find? key lower with
      | none => exact hhigher (key, setting) List.mem_cons_self
      | some held =>
        have hheld : InKeyOrder held := hlower (key, held) (mem_of_find hfind)
        exact hmerge (key, setting) List.mem_cons_self held hheld
    refine ih (sorted_insert key _ hsorted) (fun entry hentry => ?_)
      (fun entry hentry => hhigher entry (List.mem_cons_of_mem _ hentry))
      (fun entry hentry => hmerge entry (List.mem_cons_of_mem _ hentry))
    rcases mem_insert hentry with rfl | hentry
    · exact hmerged
    · exact hlower entry hentry

lemma inKeyOrder_merge {lower higher : Setting} (hlower : InKeyOrder lower) (hhigher : InKeyOrder higher) :
    InKeyOrder (lower.merge higher) := by
  induction hhigher generalizing lower with
  | leaf h =>
    rw [merge_of_leaf h]
    exact .leaf h
  | @table source entries sorted inner ih =>
    cases lower with
    | table source' lower =>
      have hmerged := inKeyOrder_mergeEntries hlower.entries.1 hlower.entries.2 inner
        fun entry hentry held hheld => ih entry hentry hheld
      rw [merge_tables]
      exact .table source hmerged.1 hmerged.2
    | nothing | text | char | bool | natural | signed | fraction | list => exact .table source sorted inner

/-! ## Defaults -/

lemma ofEntries_eq_map (source : Source) (entries : List (String × Value)) :
    Setting.ofEntries source entries = entries.map fun entry => (entry.1, Setting.ofValue source entry.2) := by
  induction entries with
  | nil => rfl
  | cons entry rest ih => rw [Setting.ofEntries, ih, List.map_cons]

lemma inKeyOrder_ofValue (source : Source) (v : Value) : InKeyOrder (Setting.ofValue source v.arranged) := by
  induction v using mapping_induction with
  | leaf v hleaf =>
    refine .leaf ?_
    cases v with
    | mapping => cases hleaf
    | number n =>
      cases n with
      | integer i =>
        change isTable (if 0 ≤ i then .natural source i.toNat else .signed source i) = false
        split <;> rfl
      | float => rfl
    | null | bool | text | list => rfl
  | mapping entries ih =>
    rw [arranged_mapping, Setting.ofValue, ofEntries_eq_map]
    refine .table source (List.pairwise_map.2 (sorted_ofList _)) fun entry hentry => ?_
    obtain ⟨arranged, harranged, rfl⟩ := List.mem_map.1 hentry
    obtain ⟨written, hwritten, rfl⟩ := List.mem_map.1 (mem_ofList harranged)
    exact ih written hwritten

lemma inKeyOrder_defaultTree : InKeyOrder Settings.defaultTree := inKeyOrder_ofValue _ _

/-! ## Files -/

lemma lookup_eq_some {key : String} {entries : List (String × Setting)} {setting : Setting}
    (h : entries.lookup key = some setting) : (key, setting) ∈ entries := by
  obtain ⟨before, after, rfl, -⟩ := List.lookup_eq_some_iff.1 h
  simp

lemma inKeyOrder_unwrapped (source : Source) {entries : List (String × Setting)}
    (h : ∀ entry ∈ entries, InKeyOrder entry.2) : InKeyOrder (unwrapped source entries) := by
  unfold unwrapped
  split
  · rename_i setting hlookup
    exact h (wrappedKey, setting) (lookup_eq_some hlookup)
  · exact inKeyOrder_ofList source fun entry hentry => h entry ((sublist_erase _ _).subset hentry)

mutual

lemma inKeyOrder_ofToml {source : Source} (node : Toml.Node) {setting : Setting}
    (h : ofToml? source node = some setting) : InKeyOrder setting := by
  match node with
  | .text _ | .integer _ | .float _ | .bool _ => exact Option.some.inj h ▸ .leaf rfl
  | .moment s =>
    have hsorted : Sorted [(momentKey, Setting.text source s)] := List.pairwise_singleton _ _
    refine Option.some.inj h ▸ .table source hsorted fun entry hentry => ?_
    exact List.mem_singleton.1 hentry ▸ .leaf rfl
  | .array nodes =>
    rw [ofToml?] at h
    obtain ⟨items, -, rfl⟩ := Option.map_eq_some_iff.1 h
    exact .leaf rfl
  | .table entries =>
    rw [ofToml?] at h
    split at h
    · obtain ⟨settings, hsettings, rfl⟩ := Option.map_eq_some_iff.1 h
      exact inKeyOrder_unwrapped source (inKeyOrder_ofTomlEntries entries hsettings)
    · cases h

lemma inKeyOrder_ofTomlEntries {source : Source} (nodes : List (String × Toml.Node))
    {settings : List (String × Setting)} (h : ofTomlEntries? source nodes = some settings) :
    ∀ entry ∈ settings, InKeyOrder entry.2 := by
  match nodes with
  | [] =>
    obtain rfl : [] = settings := Option.some.inj h
    exact fun _ hentry => absurd hentry List.not_mem_nil
  | (key, node) :: rest =>
    rw [ofTomlEntries?] at h
    obtain ⟨setting, hsetting, h⟩ := Option.bind_eq_some_iff.1 h
    obtain ⟨others, hothers, h⟩ := Option.bind_eq_some_iff.1 h
    obtain rfl : (key, setting) :: others = settings := Option.some.inj h
    intro entry hentry
    rcases List.mem_cons.1 hentry with rfl | hentry
    · exact inKeyOrder_ofToml node hsetting
    · exact inKeyOrder_ofTomlEntries rest hothers entry hentry

end

lemma inKeyOrder_readFile {file : SettingsFile} {tree : Setting} (h : Settings.readFile file = .ok tree) :
    InKeyOrder tree := by
  simp only [Settings.readFile] at h
  split at h
  · rename_i entries hentries
    obtain ⟨nodes, -, hnodes⟩ := Option.bind_eq_some_iff.1 hentries
    exact Except.ok.inj h ▸ inKeyOrder_ofList _ (inKeyOrder_ofTomlEntries nodes hnodes)
  · cases h

/-! ## The environment -/

/-- Whatever a scanner reads has a property. -/
def Yields {α : Type} (P : α → Prop) (scan : Environment.Scan α) : Prop :=
  ∀ cs a rest, scan cs = some (a, rest) → P a

lemma yields_entries {value : Environment.Scan Setting} (hvalue : Yields InKeyOrder value) (steps : Nat) :
    Yields (fun entries => ∀ entry ∈ entries, InKeyOrder entry.2) (Environment.entries value steps) := by
  induction steps with
  | zero =>
    intro cs entries rest h
    cases h
  | succ steps ih =>
    intro cs entries rest h
    rw [Environment.entries] at h
    split at h
    · obtain ⟨rfl, -⟩ := Prod.mk.inj (Option.some.inj h)
      exact fun _ hentry => absurd hentry List.not_mem_nil
    · obtain ⟨⟨name, behind⟩, -, h⟩ := Option.bind_eq_some_iff.1 h
      obtain ⟨equals, -, h⟩ := Option.bind_eq_some_iff.1 h
      obtain ⟨⟨item, behind⟩, hitem, h⟩ := Option.bind_eq_some_iff.1 h
      have hitem : InKeyOrder item := hvalue _ item behind hitem
      simp only at h
      split at h
      · obtain ⟨⟨more, behind⟩, hmore, h⟩ := Option.bind_eq_some_iff.1 h
        obtain ⟨rfl, -⟩ := Prod.mk.inj (Option.some.inj h)
        exact List.forall_mem_cons.2 ⟨hitem, ih _ more behind hmore⟩
      · obtain ⟨behind, -, h⟩ := Option.bind_eq_some_iff.1 h
        obtain ⟨rfl, -⟩ := Prod.mk.inj (Option.some.inj h)
        exact List.forall_mem_singleton.2 hitem

lemma yields_inner {scan : Environment.Scan Setting} (h : Yields InKeyOrder scan) :
    Yields InKeyOrder (Environment.value.inner scan) := by
  intro cs setting rest hscan
  obtain ⟨⟨found, behind⟩, hfound, heq⟩ := Option.bind_eq_some_iff.1 hscan
  obtain ⟨rfl, -⟩ := Prod.mk.inj (Option.some.inj heq)
  exact h _ found behind hfound

lemma isTable_bare (cs : List Char) : isTable (Environment.bare cs) = false := by
  simp only [Environment.bare]
  split <;> rfl

/-- A scanner reads a table only behind a brace, with a scanner of less depth for its values. -/
lemma table_of_scan {depth : Nat} {cs rest : List Char} {setting : Setting}
    (h : Environment.value.scan depth cs = some (setting, rest)) (htable : isTable setting = true) :
    ∃ inner steps behind entries, depth = inner + 1 ∧
      Environment.entries (Environment.value.inner (Environment.value.scan inner)) steps behind =
        some (entries, rest) ∧
      setting = .table .environment (Entries.ofList entries) := by
  unfold Environment.value.scan at h
  split at h
  · obtain ⟨rfl, -⟩ := Prod.mk.inj (Option.some.inj h)
    cases htable
  · obtain ⟨rfl, -⟩ := Prod.mk.inj (Option.some.inj h)
    cases htable
  · split at h
    · cases depth with
      | zero => cases h
      | succ inner =>
        obtain ⟨⟨entries, rest⟩, hentries, heq⟩ := Option.map_eq_some_iff.1 h
        obtain ⟨rfl, rfl⟩ := Prod.mk.inj heq
        exact ⟨inner, _, _, entries, rfl, hentries, rfl⟩
    · cases depth with
      | zero => cases h
      | succ inner =>
        obtain ⟨⟨items, rest⟩, -, heq⟩ := Option.map_eq_some_iff.1 h
        obtain ⟨rfl, -⟩ := Prod.mk.inj heq
        cases htable
    · obtain ⟨⟨text, rest⟩, -, heq⟩ := Option.map_eq_some_iff.1 h
      obtain ⟨rfl, -⟩ := Prod.mk.inj heq
      cases htable
    · split at h
      · obtain ⟨rfl, -⟩ := Prod.mk.inj (Option.some.inj h)
        cases htable
      · cases h
    · obtain ⟨rfl, -⟩ := Prod.mk.inj (Option.some.inj h)
      rw [isTable_bare] at htable
      cases htable

lemma yields_scan (depth : Nat) : Yields InKeyOrder (Environment.value.scan depth) := by
  induction depth with
  | zero =>
    intro cs setting rest h
    cases htable : isTable setting with
    | false => exact .leaf htable
    | true =>
      obtain ⟨inner, _, _, _, hdepth, -⟩ := table_of_scan h htable
      cases hdepth
  | succ depth ih =>
    intro cs setting rest h
    cases htable : isTable setting with
    | false => exact .leaf htable
    | true =>
      obtain ⟨inner, steps, behind, entries, hdepth, hentries, rfl⟩ := table_of_scan h htable
      obtain rfl : depth = inner := Nat.succ.inj hdepth
      exact inKeyOrder_ofList _ (yields_entries (yields_inner ih) steps behind entries rest hentries)

lemma inKeyOrder_setting (written : String) : InKeyOrder (Environment.setting written) := by
  unfold Environment.setting
  split
  · rename_i setting hvalue
    exact yields_inner (yields_scan _) _ setting [] hvalue
  · exact .leaf rfl

lemma inKeyOrder_nest (source : Source) {leaf : Setting} (h : InKeyOrder leaf) (path : List String) :
    InKeyOrder (nest source leaf path) := by
  induction path with
  | nil => exact h
  | cons key path ih =>
    rw [nest]
    exact .table source (List.pairwise_singleton _ _) (List.forall_mem_singleton.2 ih)

lemma inKeyOrder_read (environment : List (String × String)) : InKeyOrder (Environment.read environment) := by
  refine List.foldlRecOn environment _ (inKeyOrder_empty .environment) fun tree htree entry _ => ?_
  simp only
  split
  · exact inKeyOrder_merge htree (inKeyOrder_nest .environment (inKeyOrder_setting _) _)
  · exact htree

end PodLayers.Proofs
