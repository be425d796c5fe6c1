import PodLayers.Assembly.UserInput
import PodLayers.Proofs.EntryLookup

/-!
# Coherent lists

The operations on named lists keep names distinct and file every entry under its own. A template is
coherent when all its lists are, the mounts of its containers included; templates read from values always
are.
-/

namespace PodLayers.Proofs
open Entries

/-! ## Results -/

section Results

variable {ε α β : Type}

lemma bind_eq_ok_iff (x : Except ε α) (f : α → Except ε β) (b : β) :
    x >>= f = .ok b ↔ ∃ a, x = .ok a ∧ f a = .ok b := by
  cases x <;> simp [bind, Except.bind]

lemma map_eq_ok_iff (x : Except ε α) (f : α → β) (b : β) :
    x.map f = .ok b ↔ ∃ a, x = .ok a ∧ f a = b := by
  cases x <;> simp [Except.map]

lemma mapError_eq_ok_iff {ε' : Type} (x : Except ε α) (f : ε → ε') (a : α) :
    x.mapError f = .ok a ↔ x = .ok a := by
  cases x <;> simp [Except.mapError]

lemma below_eq_ok_iff {ν : Type} (key : String) (x : Except (Fault ν) α) (a : α) :
    below key x = .ok a ↔ x = .ok a := by
  cases x <;> simp [below]

lemma foldlM_keeps {P : β → Prop} {step : β → α → Except ε β} {items : List α}
    (hstep : ∀ a ∈ items, ∀ b b', P b → step b a = .ok b' → P b') {b result : β}
    (h : items.foldlM step b = .ok result) (hb : P b) : P result := by
  induction items generalizing b with
  | nil =>
    obtain rfl : b = result := Except.ok.inj h
    exact hb
  | cons a rest ih =>
    rw [List.foldlM_cons, bind_eq_ok_iff] at h
    obtain ⟨next, hnext, hrest⟩ := h
    exact ih (fun a' ha' => hstep a' (List.mem_cons_of_mem _ ha')) hrest
      (hstep a List.mem_cons_self b next hb hnext)

/-- A fold that fails does so at some item, after the ones before it went through. -/
lemma foldlM_eq_error {step : β → α → Except ε β} {items : List α} {b : β} {e : ε}
    (h : items.foldlM step b = .error e) :
    ∃ before a after next, items = before ++ a :: after ∧ before.foldlM step b = .ok next ∧
      step next a = .error e := by
  induction items generalizing b with
  | nil => cases h
  | cons a rest ih =>
    rw [List.foldlM_cons] at h
    cases hstep : step b a with
    | error e' =>
      rw [hstep] at h
      obtain rfl : e' = e := Except.error.inj h
      exact ⟨[], a, rest, b, rfl, rfl, hstep⟩
    | ok next =>
      rw [hstep] at h
      obtain ⟨before, a', after, last, rfl, hbefore, hlast⟩ := ih h
      refine ⟨a :: before, a', after, last, rfl, ?_, hlast⟩
      rw [List.foldlM_cons, hstep]
      exact hbefore

end Results

/-! ## Named lists -/

section NamedList

variable {α : Type}

lemma mem_toList_iff (list : NamedList α) (a : α) : a ∈ list.toList ↔ ∃ key, (key, a) ∈ list.entries := by
  simp [NamedList.toList]

lemma contains_iff (list : NamedList α) (key : String) : list.contains key = true ↔ key ∈ list.keys :=
  find_isSome_iff key list.entries

lemma mem_toList_assign {list : NamedList α} {key : String} {a b : α}
    (h : b ∈ NamedList.toList ⟨assign key a list.entries⟩) : b = a ∨ b ∈ list.toList := by
  obtain ⟨k, hmem⟩ := (mem_toList_iff _ b).1 h
  rcases mem_assign hmem with h | h
  · exact .inl (Prod.mk.inj h).2
  · exact .inr ((mem_toList_iff list b).2 ⟨k, h⟩)

variable [Named α]

/-- Everything that an attempt to insert can do. -/
lemma tryInsert_cases (list : NamedList α) (a : α) :
    (Named.name a ∈ list.keys ∧ list.tryInsert a = (.error ⟨Named.name a⟩, list)) ∨
      (Named.name a ∉ list.keys ∧ list.tryInsert a = (.ok (), ⟨list.entries ++ [(Named.name a, a)]⟩)) := by
  by_cases h : Named.name a ∈ list.keys
  · exact .inl ⟨h, if_pos ((contains_iff list _).2 h)⟩
  · exact .inr ⟨h, if_neg fun hcontains => h ((contains_iff list _).1 hcontains)⟩

lemma tryInsert_eq_error_iff (list : NamedList α) (a : α) (duplicate : DuplicateName) (next : NamedList α) :
    list.tryInsert a = (.error duplicate, next) ↔
      Named.name a ∈ list.keys ∧ duplicate = ⟨Named.name a⟩ ∧ next = list := by
  rcases tryInsert_cases list a with ⟨h, htry⟩ | ⟨h, htry⟩ <;> simp [htry, h, eq_comm]

lemma tryInsert_eq_ok_iff (list : NamedList α) (a : α) (next : NamedList α) :
    list.tryInsert a = (.ok (), next) ↔
      Named.name a ∉ list.keys ∧ next = ⟨list.entries ++ [(Named.name a, a)]⟩ := by
  rcases tryInsert_cases list a with ⟨h, htry⟩ | ⟨h, htry⟩ <;> simp [htry, h, eq_comm]

lemma insertNew_eq_ok_iff (list : NamedList α) (a : α) (next : NamedList α) :
    list.insertNew a = .ok next ↔
      Named.name a ∉ list.keys ∧ next = ⟨list.entries ++ [(Named.name a, a)]⟩ := by
  rw [← tryInsert_eq_ok_iff, NamedList.insertNew]
  rcases list.tryInsert a with ⟨_ | _, held⟩ <;> simp [Except.map]

lemma insertNew_eq_error_iff (list : NamedList α) (a : α) (duplicate : DuplicateName) :
    list.insertNew a = .error duplicate ↔ Named.name a ∈ list.keys ∧ duplicate = ⟨Named.name a⟩ := by
  rw [NamedList.insertNew]
  rcases tryInsert_cases list a with ⟨h, htry⟩ | ⟨h, htry⟩ <;> simp [htry, h, Except.map, eq_comm]

lemma coherent_empty : (NamedList.empty : NamedList α).Coherent :=
  ⟨List.Pairwise.nil, fun _ h => absurd h List.not_mem_nil⟩

lemma coherent_append {list : NamedList α} (h : list.Coherent) {a : α}
    (hnew : Named.name a ∉ list.keys) :
    NamedList.Coherent (⟨list.entries ++ [(Named.name a, a)]⟩ : NamedList α) := by
  refine ⟨?_, fun entry hentry => ?_⟩
  · have hkeys : NamedList.keys ⟨list.entries ++ [(Named.name a, a)]⟩ = list.keys ++ [Named.name a] := by
      simp [NamedList.keys, keys]
    rw [hkeys, List.nodup_append]
    refine ⟨h.1, by simp, ?_⟩
    intro key hkey other hother
    rw [List.mem_singleton] at hother
    exact fun e => hnew (hother ▸ e ▸ hkey)
  · rcases List.mem_append.1 hentry with hentry | hentry
    · exact h.2 entry hentry
    · rw [List.mem_singleton] at hentry
      rw [hentry]

/-- Putting a value under its own name keeps a list coherent. -/
lemma coherent_assign {list : NamedList α} (h : list.Coherent) {key : String} {a : α}
    (ha : Named.name a = key) : NamedList.Coherent (⟨assign key a list.entries⟩ : NamedList α) := by
  refine ⟨?_, fun entry hentry => ?_⟩
  · rw [NamedList.keys, keys_assign]
    split
    · exact h.1
    · rename_i hnew
      rw [List.nodup_append]
      exact ⟨h.1, by simp, fun k hk other hother e => hnew (List.mem_singleton.1 hother ▸ e ▸ hk)⟩
  · rcases mem_assign hentry with rfl | hentry
    · exact ha.symm
    · exact h.2 entry hentry

lemma coherent_insertNew {list list' : NamedList α} {a : α} (hlist : list.Coherent)
    (h : list.insertNew a = .ok list') : list'.Coherent := by
  obtain ⟨hnew, rfl⟩ := (insertNew_eq_ok_iff list a list').1 h
  exact coherent_append hlist hnew

lemma coherent_ofList? {items : List α} {list : NamedList α} (h : NamedList.ofList? items = .ok list) :
    list.Coherent :=
  foldlM_keeps (fun _ _ _ _ hlist hstep => coherent_insertNew hlist hstep) h coherent_empty

lemma coherent_ofList (items : List α) : (NamedList.ofList items).Coherent := by
  have hrun (list : NamedList α) (hlist : list.Coherent) : (items.foldl NamedList.set list).Coherent := by
    induction items generalizing list with
    | nil => exact hlist
    | cons a rest ih => exact ih _ (coherent_assign hlist rfl)
  exact hrun .empty coherent_empty

lemma mem_toList_foldl_set {items : List α} {list : NamedList α} {a : α}
    (h : a ∈ (items.foldl NamedList.set list).toList) : a ∈ list.toList ∨ a ∈ items := by
  induction items generalizing list with
  | nil => exact .inl h
  | cons b rest ih =>
    rcases ih h with h | h
    · rcases mem_toList_assign h with rfl | h
      · exact .inr List.mem_cons_self
      · exact .inl h
    · exact .inr (List.mem_cons_of_mem _ h)

lemma mem_toList_ofList {items : List α} {a : α} (h : a ∈ (NamedList.ofList items).toList) : a ∈ items :=
  (mem_toList_foldl_set h).resolve_left List.not_mem_nil

lemma toList_insertNew {list list' : NamedList α} {a : α} (h : list.insertNew a = .ok list') :
    list'.toList = list.toList ++ [a] := by
  obtain ⟨-, rfl⟩ := (insertNew_eq_ok_iff list a list').1 h
  simp [NamedList.toList]

lemma toList_foldlM_insertNew {items : List α} {start list : NamedList α}
    (h : items.foldlM NamedList.insertNew start = .ok list) : list.toList = start.toList ++ items := by
  induction items generalizing start with
  | nil =>
    obtain rfl : start = list := Except.ok.inj h
    simp
  | cons a rest ih =>
    rw [List.foldlM_cons, bind_eq_ok_iff] at h
    obtain ⟨next, hnext, hrest⟩ := h
    rw [ih hrest, toList_insertNew hnext, List.append_assoc]
    rfl

lemma toList_ofList? {items : List α} {list : NamedList α} (h : NamedList.ofList? items = .ok list) :
    list.toList = items := toList_foldlM_insertNew h

lemma names_toList {list : NamedList α} (h : list.Coherent) : list.toList.map Named.name = list.keys := by
  rw [NamedList.toList, NamedList.keys, keys, List.map_map]
  exact List.map_congr_left fun entry hentry => (h.2 entry hentry).symm

lemma foldlM_insertNew {front back : List (String × α)}
    (h : NamedList.Coherent (⟨front ++ back⟩ : NamedList α)) :
    (back.map Prod.snd).foldlM NamedList.insertNew (⟨front⟩ : NamedList α) = .ok ⟨front ++ back⟩ := by
  induction back generalizing front with
  | nil => rw [List.append_nil]; rfl
  | cons entry rest ih =>
    obtain ⟨key, a⟩ := entry
    obtain rfl : key = Named.name a := h.2 (key, a) (List.mem_append_right _ List.mem_cons_self)
    have hnew : Named.name a ∉ NamedList.keys (⟨front⟩ : NamedList α) := by
      have hkeys := h.1
      rw [NamedList.keys, keys, List.map_append, List.nodup_append] at hkeys
      exact fun hmem => hkeys.2.2 _ hmem _ List.mem_cons_self rfl
    rw [List.append_cons] at h
    have hrest := ih h
    rw [List.append_assoc] at hrest
    rw [List.map_cons, List.foldlM_cons, (insertNew_eq_ok_iff _ _ _).2 ⟨hnew, rfl⟩]
    exact hrest

lemma ofList_toList {list : NamedList α} (h : list.Coherent) : NamedList.ofList? list.toList = .ok list :=
  @foldlM_insertNew _ _ [] list.entries h

/-- The list that files every item under its own name. -/
def filed (items : List α) : NamedList α := ⟨items.map fun a => (Named.name a, a)⟩

lemma toList_filed (items : List α) : (filed items).toList = items := by
  simp [filed, NamedList.toList, Function.comp_def]

lemma keys_filed (items : List α) : (filed items).keys = items.map Named.name := by
  simp [filed, NamedList.keys, keys, Function.comp_def]

lemma coherent_filed {items : List α} (h : (items.map Named.name).Nodup) : (filed items).Coherent := by
  refine ⟨by rwa [keys_filed], fun entry hentry => ?_⟩
  obtain ⟨a, -, rfl⟩ := List.mem_map.1 hentry
  rfl

lemma filed_toList {list : NamedList α} (h : list.Coherent) : filed list.toList = list := by
  have hentries : list.entries.map (fun entry => (Named.name entry.2, entry.2)) = list.entries := by
    refine (List.map_congr_left fun entry hentry => ?_).trans (List.map_id _)
    exact Prod.ext (h.2 entry hentry).symm rfl
  rw [filed, NamedList.toList, List.map_map]
  exact congrArg NamedList.mk hentries

/-- Items whose names are distinct make the list that has them in their order, and no others make one. -/
lemma ofList_eq_ok_iff (items : List α) (list : NamedList α) :
    NamedList.ofList? items = .ok list ↔ (items.map Named.name).Nodup ∧ list = filed items := by
  constructor
  · intro h
    have hcoherent := coherent_ofList? h
    have hitems := toList_ofList? h
    rw [← hitems]
    exact ⟨by rw [names_toList hcoherent]; exact hcoherent.1, (filed_toList hcoherent).symm⟩
  · rintro ⟨hnodup, rfl⟩
    have hread := ofList_toList (coherent_filed hnodup)
    rwa [toList_filed] at hread

omit [Named α] in
lemma mem_of_get {list : NamedList α} {key : String} {a : α} (h : list.get? key = some a) :
    a ∈ list.toList := (mem_toList_iff list a).2 ⟨key, mem_of_find h⟩

lemma coherent_mapEntries {list : NamedList α} (h : list.Coherent) {f : α → α}
    (hname : ∀ a ∈ list.toList, Named.name (f a) = Named.name a) : (list.mapEntries f).Coherent := by
  refine ⟨?_, fun entry hentry => ?_⟩
  · rw [NamedList.keys, NamedList.mapEntries, keys_map]
    exact h.1
  · obtain ⟨old, hold, rfl⟩ := List.mem_map.1 hentry
    rw [h.2 old hold]
    exact (hname old.2 ((mem_toList_iff list old.2).2 ⟨old.1, hold⟩)).symm

/-- In a coherent list a name finds the entry that bears it. -/
lemma get_eq_some_iff {list : NamedList α} (h : list.Coherent) (key : String) (a : α) :
    list.get? key = some a ↔ a ∈ list.toList ∧ Named.name a = key := by
  rw [mem_toList_iff]
  constructor
  · intro hget
    have hmem := mem_of_find hget
    exact ⟨⟨key, hmem⟩, (h.2 _ hmem).symm⟩
  · rintro ⟨⟨k, hmem⟩, rfl⟩
    obtain rfl : k = Named.name a := h.2 _ hmem
    exact find_of_mem h.1 hmem

/-- The values of a name, in their order. -/
def partsNamed (key : String) (items : List α) : List α := items.filter fun a => Named.name a = key

lemma name_of_mem_partsNamed {key : String} {items : List α} {a : α} (h : a ∈ partsNamed key items) :
    Named.name a = key := by simpa using (List.mem_filter.1 h).2

lemma partsNamed_of_coherent {list : NamedList α} (h : list.Coherent) (key : String) :
    partsNamed key list.toList = (list.get? key).toList := by
  obtain ⟨entries⟩ := list
  induction entries with
  | nil => rfl
  | cons head rest ih =>
    obtain ⟨k, a⟩ := head
    obtain rfl : k = Named.name a := h.2 (k, a) List.mem_cons_self
    obtain ⟨hnew, hrest⟩ : Named.name a ∉ keys rest ∧ (keys rest).Nodup := by
      simpa [NamedList.keys, keys] using h.1
    have htail := ih ⟨hrest, fun entry hentry => h.2 entry (List.mem_cons_of_mem _ hentry)⟩
    rw [partsNamed] at htail ⊢
    rw [NamedList.get?, find_cons]
    by_cases hkey : Named.name a = key
    · subst hkey
      have hnone : find? (Named.name a) rest = none := (find_eq_none_iff _ _).2 hnew
      rw [NamedList.get?, hnone] at htail
      simpa [NamedList.toList] using htail
    · simpa [NamedList.toList, NamedList.get?, hkey] using htail

end NamedList

/-! ## Templates -/

/-- All lists of a template are coherent, the mounts of its containers included. -/
structure CoherentPod (pod : PodTemplate) : Prop where
  initContainers : pod.spec.initContainers.Coherent
  containers : pod.spec.containers.Coherent
  volumes : pod.spec.volumes.Coherent
  initMounts : ∀ c ∈ pod.spec.initContainers.toList, c.volumeMounts.Coherent
  mounts : ∀ c ∈ pod.spec.containers.toList, c.volumeMounts.Coherent

/-- A template whose lists were all written out, with coherent mounts. -/
lemma coherentPod_ofList {pod : PodTemplate} (initContainers containers : List Container)
    (volumes : List Volume) (hinit : pod.spec.initContainers = .ofList initContainers)
    (hcontainers : pod.spec.containers = .ofList containers) (hvolumes : pod.spec.volumes = .ofList volumes)
    (hmounts : ∀ c ∈ initContainers ++ containers, c.volumeMounts.Coherent) : CoherentPod pod where
  initContainers := hinit ▸ coherent_ofList initContainers
  containers := hcontainers ▸ coherent_ofList containers
  volumes := hvolumes ▸ coherent_ofList volumes
  initMounts c hc := by
    rw [hinit] at hc
    exact hmounts c (List.mem_append_left _ (mem_toList_ofList hc))
  mounts c hc := by
    rw [hcontainers] at hc
    exact hmounts c (List.mem_append_right _ (mem_toList_ofList hc))

lemma coherentPod_empty : CoherentPod {} :=
  coherentPod_ofList [] [] [] rfl rfl rfl fun _ h => absurd h List.not_mem_nil

/-! ## Templates read from values -/

section Record

variable {ν ρ α : Type}

/-- Putting the field keeps a property of the draft. -/
def FieldKeeps (P : ρ → Prop) (field : Field ν ρ) : Prop :=
  ∀ node draft draft', P draft → field.put node draft = .ok draft' → P draft'

lemma fieldKeeps_ofReader {P : ρ → Prop} {required : Bool} {name : String} {read : Reader ν α}
    {set : α → ρ → ρ} (h : ∀ node a draft, read node = .ok a → P draft → P (set a draft)) :
    FieldKeeps P (Field.ofReader required name read set) := by
  intro node draft draft' hdraft hput
  obtain ⟨a, ha, rfl⟩ := (map_eq_ok_iff _ _ _).1 hput
  exact h node a draft ha hdraft

lemma fill_keeps {P : ρ → Prop} {record : Record ν ρ} {fields : List (Field ν ρ)}
    (hfields : ∀ field ∈ fields, FieldKeeps P field) {index : Nat} {items : List ν} {draft result : ρ}
    (h : record.fill index fields items draft = .ok result) (hd : P draft) : P result := by
  induction fields generalizing index items draft with
  | nil =>
    obtain rfl : draft = result := Except.ok.inj h
    exact hd
  | cons field rest ih =>
    have hrest := fun f hf => hfields f (List.mem_cons_of_mem _ hf)
    cases items with
    | nil =>
      rw [Record.fill] at h
      split at h
      · cases h
      · exact ih hrest h hd
    | cons item items =>
      rw [Record.fill, bind_eq_ok_iff] at h
      obtain ⟨next, hnext, htail⟩ := h
      rw [below_eq_ok_iff] at hnext
      exact ih hrest htail (hfields field List.mem_cons_self item draft next hd hnext)

/-- An entry that is read goes to a field of its name. -/
lemma exists_field_of_visit {record : Record ν ρ} {draft next : ρ} {entry : String × ν}
    (h : record.visit draft entry = .ok next) :
    ∃ field ∈ record.fields, field.name = entry.1 ∧ field.put entry.2 draft = .ok next := by
  unfold Record.visit at h
  split at h
  · cases h
  · rename_i field hfield
    have hname : field.name = entry.1 := by simpa using List.find?_some hfield
    exact ⟨field, List.mem_of_find?_eq_some hfield, hname, (below_eq_ok_iff _ _ _).1 h⟩

lemma foldlM_of_ofEntries {record : Record ν ρ} {entries : List (String × ν)} {result : ρ}
    (h : record.ofEntries entries = .ok result) :
    entries.foldlM record.visit record.blank = .ok result := by
  rw [Record.ofEntries, bind_eq_ok_iff] at h
  obtain ⟨draft, hdraft, hresult⟩ := h
  split at hresult
  · cases hresult
  · exact Except.ok.inj hresult ▸ hdraft

/-- What holds of the blank record and is kept by every field holds of every record read. -/
lemma record_read_keeps [Readable ν] {P : ρ → Prop} {record : Record ν ρ} (hblank : P record.blank)
    (hfields : ∀ field ∈ record.fields, FieldKeeps P field) {node : ν} {result : ρ}
    (h : record.read node = .ok result) : P result := by
  unfold Record.read at h
  split at h
  · refine foldlM_keeps (fun entry _ draft draft' hd hvisit => ?_) (foldlM_of_ofEntries h) hblank
    obtain ⟨field, hfield, -, hput⟩ := exists_field_of_visit hvisit
    exact hfields field hfield entry.2 draft draft' hd hput
  · rw [Record.ofItems, bind_eq_ok_iff] at h
    obtain ⟨draft, hdraft, hresult⟩ := h
    split at hresult
    · cases hresult
    · exact Except.ok.inj hresult ▸ fill_keeps hfields hdraft hblank
  · cases h

lemma mem_items {read : Reader ν α} {nodes : List ν} {index : Nat} {items : List α}
    (h : Read.items read index nodes = .ok items) {a : α} (ha : a ∈ items) : ∃ node, read node = .ok a := by
  induction nodes generalizing index items with
  | nil =>
    obtain rfl : [] = items := Except.ok.inj h
    simp at ha
  | cons node rest ih =>
    rw [Read.items, bind_eq_ok_iff] at h
    obtain ⟨first, hfirst, h⟩ := h
    rw [bind_eq_ok_iff] at h
    obtain ⟨others, hothers, h⟩ := h
    obtain rfl : first :: others = items := Except.ok.inj h
    rcases List.mem_cons.1 ha with rfl | ha
    · exact ⟨node, (below_eq_ok_iff _ _ _).1 hfirst⟩
    · exact ih hothers ha

end Record

lemma coherent_read {α : Type} [Named α] {entry : Reader Value α} {node : Value} {list : NamedList α}
    (h : NamedList.read entry node = .ok list) :
    list.Coherent ∧ ∀ a ∈ list.toList, ∃ item, entry item = .ok a := by
  rw [NamedList.read, bind_eq_ok_iff] at h
  obtain ⟨items, hitems, h⟩ := h
  cases hlist : NamedList.ofList? items with
  | error duplicate => simp [hlist, fail] at h
  | ok read =>
    rw [hlist] at h
    obtain rfl : read = list := Except.ok.inj h
    refine ⟨coherent_ofList? hlist, fun a ha => ?_⟩
    rw [toList_ofList? hlist] at ha
    unfold Read.list at hitems
    split at hitems
    · exact mem_items hitems ha
    · cases hitems

/-- The mounts of a container that is read are none, or a list that is read. -/
lemma mounts_read {P : NamedList VolumeMount → Prop} (hempty : P .empty)
    (hread : ∀ node list, NamedList.read VolumeMount.record.read node = .ok list → P list) {node : Value}
    {c : Container} (h : Container.record.read node = .ok c) : P c.volumeMounts := by
  refine record_read_keeps (P := fun c => P c.volumeMounts) (by exact hempty) ?_ h
  simp only [Container.record, List.forall_mem_cons, Field.needed, Field.defaulted]
  refine ⟨?_, ?_, ?_, ?_, ?_, ?_, ?_, ?_, nofun⟩ <;> apply fieldKeeps_ofReader <;> intro node a draft ha hd
  case refine_6 => exact hread node a ha
  all_goals exact hd

lemma coherent_mounts_read {node : Value} {c : Container} (h : Container.record.read node = .ok c) :
    c.volumeMounts.Coherent :=
  mounts_read coherent_empty (fun _ _ hlist => (coherent_read hlist).1) h

/-- What is coherent about a specification. -/
lemma coherentSpec_read {node : Value} {spec : PodSpec} (h : PodSpec.record.read node = .ok spec) :
    CoherentPod { spec } := by
  refine record_read_keeps (P := fun spec => CoherentPod { spec }) (by exact coherentPod_empty) ?_ h
  simp only [PodSpec.record, List.forall_mem_cons, Field.defaulted]
  refine ⟨?_, ?_, ?_, ?_, ?_, nofun⟩ <;> apply fieldKeeps_ofReader <;> intro node a draft ha hd
  · obtain ⟨hlist, hitems⟩ := coherent_read ha
    exact { hd with
      initContainers := hlist
      initMounts := fun c hc => (hitems c hc).elim fun _ hread => coherent_mounts_read hread }
  · obtain ⟨hlist, hitems⟩ := coherent_read ha
    exact { hd with
      containers := hlist
      mounts := fun c hc => (hitems c hc).elim fun _ hread => coherent_mounts_read hread }
  · exact { hd with volumes := (coherent_read ha).1 }
  · exact { hd with }
  · exact { hd with }

lemma read_of_decode {value : Value} {pod : PodTemplate} (h : Override.decode value = .ok pod) :
    PodTemplate.record.read value = .ok pod := by
  unfold Override.decode at h
  split at h
  · cases h
  · split at h
    · rename_i read hread
      obtain rfl : read = pod := Except.ok.inj h
      exact hread
    · cases h

lemma coherentPod_decode {value : Value} {pod : PodTemplate} (h : Override.decode value = .ok pod) :
    CoherentPod pod := by
  refine record_read_keeps (P := CoherentPod) (by exact coherentPod_empty) ?_ (read_of_decode h)
  simp only [PodTemplate.record, List.forall_mem_cons, Field.defaulted]
  refine ⟨?_, ?_, nofun⟩ <;> apply fieldKeeps_ofReader <;> intro node a draft ha hd
  · exact { hd with }
  · exact { coherentSpec_read ha with }

end PodLayers.Proofs
