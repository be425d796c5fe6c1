import PodLayers.Proofs.EffectiveEnv
import PodLayers.Proofs.EntryOrder

/-!
# Lists built by their operations

Lists of containers, volumes and mounts are built from the empty one by putting entries in, laying lists over
each other, reading them from values, and giving init containers an image in the end. Whatever the order of
these, and also where an operation fails on the way, every entry stays filed under its own name and names stay
distinct, in a list and in the mounts of its containers.
-/

namespace PodLayers.Proofs
open Entries

/-! ## How lists are built -/

/-- What the lists of one type are made of: the entries that are put into them, how an entry is read, and how a
list is changed in place. -/
structure ListKind (α : Type) where
  whole : α → Prop := fun _ => True
  read : Reader Value α
  amends : NamedList α → NamedList α → Prop := fun _ _ => False

/-- The lists that the operations make. What is there after an entry was refused counts, and so does what an
overlay has reached when a clash stops it. -/
inductive Built {α : Type} [Named α] [Layered α] (kind : ListKind α) : NamedList α → Prop
  | empty : Built kind .empty
  | tryInsert {list : NamedList α} {a : α} :
    Built kind list → kind.whole a → Built kind (list.tryInsert a).2
  | set {list : NamedList α} {a : α} : Built kind list → kind.whole a → Built kind (list.set a)
  | overlay {lower higher : NamedList α} (slot : Slot) :
    Built kind lower → Built kind higher → Built kind (Layered.overlay slot lower higher).value
  | ofItems {items : List α} {list : NamedList α} :
    (∀ a ∈ items, kind.whole a) → NamedList.ofList? items = .ok list → Built kind list
  | read {node : Value} {list : NamedList α} : NamedList.read kind.read node = .ok list → Built kind list
  | amend {list next : NamedList α} : Built kind list → kind.amends list next → Built kind next

def mountLists : ListKind VolumeMount where
  read := VolumeMount.record.read

def volumeLists : ListKind Volume where
  read := Volume.record.read

/-- Init containers take the image of the primary container, and the mounts of containers are lists of their
own, which may be changed where they stand. -/
inductive AmendsContainers : NamedList Container → NamedList Container → Prop
  | inheritImage (pod : PodTemplate) (primary : String) :
    AmendsContainers pod.spec.initContainers (pod.inheritImage primary).spec.initContainers
  | mounts (list : NamedList Container) (mounts : Container → NamedList VolumeMount) :
    (∀ c ∈ list.toList, Built mountLists (mounts c)) →
      AmendsContainers list (list.mapEntries fun c => { c with volumeMounts := mounts c })

def containerLists : ListKind Container where
  whole c := Built mountLists c.volumeMounts
  read := Container.record.read
  amends := AmendsContainers

/-! ## What the operations keep -/

/-- Entries keep their names and stay whole whatever is done to them. -/
structure ListKind.Sound {α : Type} [Named α] [Layered α] (kind : ListKind α) : Prop where
  name_overlay : ∀ slot (lower higher : α), Named.name (Layered.overlay slot lower higher).value = Named.name lower
  whole_overlay : ∀ slot lower higher, kind.whole lower → kind.whole higher →
    kind.whole (Layered.overlay slot lower higher).value
  whole_read : ∀ node a, kind.read node = .ok a → kind.whole a
  amends : ∀ list next, kind.amends list next → ∃ f, next = list.mapEntries f ∧
    ∀ a ∈ list.toList, Named.name (f a) = Named.name a ∧ (kind.whole a → kind.whole (f a))

/-- A coherent list of whole entries. -/
structure Proper {α : Type} [Named α] (kind : ListKind α) (list : NamedList α) : Prop where
  coherent : list.Coherent
  whole : ∀ a ∈ list.toList, kind.whole a

namespace Proper

variable {α : Type} [Named α] {kind : ListKind α} {list : NamedList α}

lemma empty : Proper kind (NamedList.empty : NamedList α) where
  coherent := coherent_empty
  whole _ h := absurd h List.not_mem_nil

lemma assigned (h : Proper kind list) {key : String} {a : α} (hname : Named.name a = key)
    (ha : kind.whole a) : Proper kind (⟨assign key a list.entries⟩ : NamedList α) where
  coherent := coherent_assign h.coherent hname
  whole c hc := by
    rcases mem_toList_assign hc with rfl | hc
    · exact ha
    · exact h.whole c hc

lemma appended (h : Proper kind list) {a : α} (hnew : Named.name a ∉ list.keys) (ha : kind.whole a) :
    Proper kind (⟨list.entries ++ [(Named.name a, a)]⟩ : NamedList α) where
  coherent := coherent_append h.coherent hnew
  whole c hc := by
    have hmem : c ∈ list.toList ++ [a] := by simpa [NamedList.toList] using hc
    rcases List.mem_append.1 hmem with hc | hc
    · exact h.whole c hc
    · rw [List.mem_singleton.1 hc]
      exact ha

lemma tryInsert (h : Proper kind list) {a : α} (ha : kind.whole a) : Proper kind (list.tryInsert a).2 := by
  rcases tryInsert_cases list a with ⟨-, htry⟩ | ⟨hname, htry⟩ <;> rw [htry]
  · exact h
  · exact h.appended hname ha

lemma ofItems {items : List α} (hitems : ∀ a ∈ items, kind.whole a)
    (h : NamedList.ofList? items = .ok list) : Proper kind list where
  coherent := coherent_ofList? h
  whole := by rwa [toList_ofList? h]

lemma read (hread : ∀ node a, kind.read node = .ok a → kind.whole a) {node : Value}
    (h : NamedList.read kind.read node = .ok list) : Proper kind list where
  coherent := (coherent_read h).1
  whole a ha := by
    obtain ⟨item, hitem⟩ := (coherent_read h).2 a ha
    exact hread item a hitem

lemma mapEntries (h : Proper kind list) {f : α → α}
    (hf : ∀ a ∈ list.toList, Named.name (f a) = Named.name a ∧ (kind.whole a → kind.whole (f a))) :
    Proper kind (list.mapEntries f) where
  coherent := coherent_mapEntries h.coherent fun a ha => (hf a ha).1
  whole b hb := by
    rw [toList_mapEntries] at hb
    obtain ⟨a, ha, rfl⟩ := List.mem_map.1 hb
    exact (hf a ha).2 (h.whole a ha)

variable [Layered α]

/-- An entry laid over that of its name, whether or not this clashes, or put at the end. -/
lemma overlayEntry (hkind : kind.Sound) (h : Proper kind list) (slot : Slot) {a : α} (ha : kind.whole a) :
    Proper kind (NamedList.overlayEntry slot list a).value := by
  unfold NamedList.overlayEntry
  cases hget : list.get? (Named.name a) with
  | none =>
    simp only [hget]
    have hnew : Named.name a ∉ list.keys := (find_eq_none_iff _ _).1 hget
    exact h.appended hnew ha
  | some held =>
    simp only [hget]
    obtain ⟨hheld, hname⟩ := (get_eq_some_iff h.coherent _ held).1 hget
    exact h.assigned ((hkind.name_overlay _ held a).trans hname)
      (hkind.whole_overlay _ held a (h.whole held hheld) ha)

/-- The list is proper after every entry, so it does not matter at which one a clash stops. -/
lemma overlayAll (hkind : kind.Sound) (slot : Slot) {items : List α} (hitems : ∀ a ∈ items, kind.whole a)
    (h : Proper kind list) : Proper kind (NamedList.overlayAll slot list items).value := by
  induction items generalizing list with
  | nil => exact h
  | cons a rest ih =>
    have hentry := h.overlayEntry hkind slot (hitems a List.mem_cons_self)
    rw [NamedList.overlayAll, Merged.andThen]
    split
    · exact hentry
    · exact ih (fun b hb => hitems b (List.mem_cons_of_mem _ hb)) hentry

end Proper

lemma proper_of_built {α : Type} [Named α] [Layered α] {kind : ListKind α} (hkind : kind.Sound)
    {list : NamedList α} (h : Built kind list) : Proper kind list := by
  induction h with
  | empty => exact .empty
  | tryInsert _ ha ih => exact ih.tryInsert ha
  | set _ ha ih => exact ih.assigned rfl ha
  | overlay slot _ _ ihlower ihhigher => exact ihlower.overlayAll hkind slot ihhigher.whole
  | ofItems hitems hlist => exact .ofItems hitems hlist
  | read hread => exact .read hkind.whole_read hread
  | amend _ hamends ih =>
    obtain ⟨f, rfl, hf⟩ := hkind.amends _ _ hamends
    exact ih.mapEntries hf

lemma built_ofList {α : Type} [Named α] [Layered α] {kind : ListKind α} {items : List α}
    (hitems : ∀ a ∈ items, kind.whole a) : Built kind (NamedList.ofList items) := by
  have hrun (list : NamedList α) (hlist : Built kind list) : Built kind (items.foldl NamedList.set list) := by
    induction items generalizing list with
    | nil => exact hlist
    | cons a rest ih =>
      obtain ⟨ha, hrest⟩ := List.forall_mem_cons.1 hitems
      exact ih hrest _ (.set hlist ha)
  exact hrun .empty .empty

/-! ## Mounts, volumes and containers -/

lemma sound_mountLists : mountLists.Sound where
  name_overlay _ _ _ := rfl
  whole_overlay _ _ _ _ _ := trivial
  whole_read _ _ _ := trivial
  amends _ _ h := h.elim

lemma sound_volumeLists : volumeLists.Sound where
  name_overlay slot lower higher := by
    change (Volume.overlay slot lower higher).value.name = lower.name
    unfold Volume.overlay
    split
    · rfl
    · split <;> rfl
  whole_overlay _ _ _ _ _ := trivial
  whole_read _ _ _ := trivial
  amends _ _ h := h.elim

lemma name_overlay_container (slot : Slot) (lower higher : Container) :
    (Container.overlay slot lower higher).value.name = lower.name := by
  unfold Container.overlay
  rw [andThen_keeps Container.name fun c => andThen_keeps Container.name fun c' => rfl]
  rfl

/-- A clash of images comes before the mounts are laid over each other. -/
lemma mounts_overlay_container (slot : Slot) (lower higher : Container) :
    (Container.overlay slot lower higher).value.volumeMounts = lower.volumeMounts ∨
      (Container.overlay slot lower higher).value.volumeMounts =
        (Layered.overlay (slot.field "volumeMounts") lower.volumeMounts higher.volumeMounts).value := by
  unfold Container.overlay
  simp only [Merged.andThen]
  split
  · exact .inl rfl
  · split
    · exact .inr rfl
    · exact .inr rfl

lemma sound_containerLists : containerLists.Sound where
  name_overlay := name_overlay_container
  whole_overlay slot lower higher hlower hhigher := by
    change Built mountLists (Container.overlay slot lower higher).value.volumeMounts
    rcases mounts_overlay_container slot lower higher with h | h <;> rw [h]
    · exact hlower
    · exact .overlay _ hlower hhigher
  whole_read node c h := mounts_read .empty (fun _ _ hlist => .read hlist) h
  amends list next h := by
    cases h with
    | inheritImage pod primary =>
      refine ⟨withImageOr (primaryImage primary pod), by rw [inheritImage_eq], fun c _ => ⟨rfl, id⟩⟩
    | mounts list mounts hmounts =>
      exact ⟨fun c => { c with volumeMounts := mounts c }, rfl, fun c hc => ⟨rfl, fun _ => hmounts c hc⟩⟩

/-! ## Repeated names -/

/-- The name at an index stands at an earlier one too. -/
def RepeatsAt (names : List String) (index : Nat) : Prop :=
  ∃ name, names[index]? = some name ∧ name ∈ names.take index

/-- The smallest such index, with its name. -/
structure FirstRepeat (names : List String) (index : Nat) (name : String) : Prop where
  named : names[index]? = some name
  repeated : RepeatsAt names index
  first : ∀ earlier < index, ¬RepeatsAt names earlier

section Repeats

variable {names : List String} {index : Nat}

lemma not_nodup_of_repeatsAt (h : RepeatsAt names index) : ¬names.Nodup := by
  obtain ⟨name, hname, hearlier⟩ := h
  intro hnodup
  obtain ⟨hlt, hget⟩ := List.getElem?_eq_some_iff.1 hname
  have hsplit := List.take_append_drop index names
  rw [List.drop_eq_getElem_cons hlt, hget] at hsplit
  rw [← hsplit, List.nodup_append] at hnodup
  exact hnodup.2.2 name hearlier name List.mem_cons_self rfl

lemma repeatsAt_append_iff {after : List String} (h : index < names.length) :
    RepeatsAt (names ++ after) index ↔ RepeatsAt names index := by
  simp only [RepeatsAt, List.getElem?_append_left h, List.take_append_of_le_length (Nat.le_of_lt h)]

lemma FirstRepeat.unique {name other : String} {otherIndex : Nat} (h : FirstRepeat names index name)
    (h' : FirstRepeat names otherIndex other) : name = other := by
  have hindex : index = otherIndex := by
    rcases Nat.lt_trichotomy index otherIndex with hlt | heq | hlt
    · exact absurd h.repeated (h'.first index hlt)
    · exact heq
    · exact absurd h'.repeated (h.first otherIndex hlt)
  have hnamed := h'.named
  rw [← hindex, h.named] at hnamed
  exact Option.some.inj hnamed

/-- What stands before a first repetition is without repetitions. -/
lemma firstRepeat_concat {before after : List String} {name : String} (hnodup : before.Nodup)
    (hname : name ∈ before) : FirstRepeat (before ++ name :: after) before.length name := by
  have hnamed : (before ++ name :: after)[before.length]? = some name := by simp
  refine ⟨hnamed, ⟨name, hnamed, by simpa using hname⟩, fun earlier hlt hrepeats => ?_⟩
  rw [repeatsAt_append_iff hlt] at hrepeats
  exact not_nodup_of_repeatsAt hrepeats hnodup

variable {α : Type} [Named α] {items : List α} {duplicate : DuplicateName}

lemma firstRepeat_of_ofList (h : NamedList.ofList? items = .error duplicate) :
    ∃ index, FirstRepeat (items.map Named.name) index duplicate.name := by
  obtain ⟨before, a, after, list, rfl, hlist, ha⟩ := foldlM_eq_error h
  obtain ⟨hnodup, rfl⟩ := (ofList_eq_ok_iff before list).1 hlist
  obtain ⟨hname, rfl⟩ := (insertNew_eq_error_iff _ a duplicate).1 ha
  rw [keys_filed] at hname
  rw [List.map_append, List.map_cons]
  exact ⟨_, firstRepeat_concat hnodup hname⟩

lemma ofList_eq_error_iff (items : List α) (duplicate : DuplicateName) :
    NamedList.ofList? items = .error duplicate ↔
      ∃ index, FirstRepeat (items.map Named.name) index duplicate.name := by
  constructor
  · exact firstRepeat_of_ofList
  · rintro ⟨index, hfirst⟩
    cases hlist : NamedList.ofList? items with
    | ok list =>
      obtain ⟨hnodup, -⟩ := (ofList_eq_ok_iff items list).1 hlist
      exact absurd hnodup (not_nodup_of_repeatsAt hfirst.repeated)
    | error other =>
      obtain ⟨otherIndex, hother⟩ := firstRepeat_of_ofList hlist
      have hname : other.name = duplicate.name := hother.unique hfirst
      obtain ⟨name⟩ := other
      obtain ⟨name'⟩ := duplicate
      exact congrArg _ (congrArg _ hname)

end Repeats

/-! ## All lists -/

/-- Every entry is filed under its own name and names are distinct, so a name finds the entry that bears it
and comes up once. -/
structure WellFiled {α : Type} [Named α] (list : NamedList α) : Prop where
  distinct : list.keys.Nodup
  filed : ∀ entry ∈ list.entries, entry.1 = Named.name entry.2
  found : ∀ key a, list.get? key = some a ↔ a ∈ list.toList ∧ Named.name a = key
  once : (list.toList.map Named.name).Nodup

/-- What single operations do on lists of a type. -/
structure ListOperations (α : Type) [Named α] : Prop where
  made : ∀ (items : List α) list, NamedList.ofList? items = .ok list ↔
    (items.map Named.name).Nodup ∧ list.entries = items.map fun a => (Named.name a, a)
  rejected : ∀ (items : List α) duplicate, NamedList.ofList? items = .error duplicate ↔
    ∃ index, FirstRepeat (items.map Named.name) index duplicate.name
  refused : ∀ (list : NamedList α) a duplicate next, list.tryInsert a = (.error duplicate, next) ↔
    Named.name a ∈ list.keys ∧ duplicate = ⟨Named.name a⟩ ∧ next = list
  inserted : ∀ (list : NamedList α) a next, list.tryInsert a = (.ok (), next) ↔
    Named.name a ∉ list.keys ∧ next = ⟨list.entries ++ [(Named.name a, a)]⟩
  replaced : ∀ (list : NamedList α) a, WellFiled list →
    (list.set a).entries = putInPlace list.entries (Named.name a, a)

section Lists

variable {α : Type} [Named α] {list : NamedList α}

lemma wellFiled_of_coherent (h : list.Coherent) : WellFiled list where
  distinct := h.1
  filed := h.2
  found := get_eq_some_iff h
  once := by
    rw [names_toList h]
    exact h.1

lemma wellFiled_of_built [Layered α] {kind : ListKind α} (hkind : kind.Sound) (h : Built kind list) :
    WellFiled list := wellFiled_of_coherent (proper_of_built hkind h).coherent

lemma listOperations (α : Type) [Named α] : ListOperations α where
  made items list := by
    rw [ofList_eq_ok_iff]
    exact and_congr_right fun _ => ⟨fun h => h ▸ rfl, fun h => congrArg NamedList.mk h⟩
  rejected := ofList_eq_error_iff
  refused := tryInsert_eq_error_iff
  inserted := tryInsert_eq_ok_iff
  replaced list a h := assign_eq_putInPlace h.distinct (Named.name a, a)

end Lists

/-- In all lists that are built every entry is filed under its own name, at both levels. Items make a list
exactly when their names are distinct, and otherwise the first repeated name is reported. An entry whose name is
taken is refused and nothing changes, unless it is set in place of the other. -/
theorem built_lists_wellFiled :
    (∀ list, Built mountLists list → WellFiled list) ∧
    (∀ list, Built volumeLists list → WellFiled list) ∧
    (∀ list, Built containerLists list → WellFiled list ∧ ∀ c ∈ list.toList, WellFiled c.volumeMounts) ∧
    ∀ (α : Type) [Named α], ListOperations α := by
  refine ⟨fun list => wellFiled_of_built sound_mountLists, fun list => wellFiled_of_built sound_volumeLists,
    fun list hlist => ?_, fun α _ => listOperations α⟩
  have hproper := proper_of_built sound_containerLists hlist
  refine ⟨wellFiled_of_coherent hproper.coherent, fun c hc => ?_⟩
  exact wellFiled_of_built sound_mountLists (hproper.whole c hc)

/-- A list whose second container cannot be replaced, below one that gives it another image. -/
def servedContainers : NamedList Container :=
  .ofList [
    { name := "app", image := some "app:1", volumeMounts := .ofList [.atPath "data" "/data"] },
    { name := "proxy", image := some "proxy:1" }]

def contestedContainers : NamedList Container :=
  .ofList [
    { name := "app", volumeMounts := .ofList [.atPath "logs" "/logs", .atPath "data" "/srv"] },
    { name := "proxy", image := some "proxy:2" },
    { name := "late" }]

lemma whole_container (c : Container) (mounts : List VolumeMount) (h : c.volumeMounts = .ofList mounts) :
    containerLists.whole c := by
  change Built mountLists c.volumeMounts
  rw [h]
  exact built_ofList fun _ _ => trivial

theorem built_lists_wellFiled_stopped :
    ∃ list clash,
      Layered.overlay (Slot.root (.addon "mesh")) servedContainers contestedContainers = ⟨list, some clash⟩ ∧
      list.keys = ["app", "proxy"] ∧
      (list.get? "app").map (fun c => c.volumeMounts.keys) = some ["data", "logs"] ∧
      WellFiled list ∧ (∀ c ∈ list.toList, WellFiled c.volumeMounts) ∧
      ∃ index, FirstRepeat ["app", "proxy", "proxy", "app"] index "proxy" := by
  obtain ⟨-, -, hcontainers, hoperations⟩ := built_lists_wellFiled
  have hserved : Built containerLists servedContainers :=
    built_ofList (List.forall_mem_cons.2
      ⟨whole_container _ _ rfl, List.forall_mem_singleton.2 (whole_container _ [] rfl)⟩)
  have hcontested : Built containerLists contestedContainers :=
    built_ofList (List.forall_mem_cons.2 ⟨whole_container _ _ rfl, List.forall_mem_cons.2
      ⟨whole_container _ [] rfl, List.forall_mem_singleton.2 (whole_container _ [] rfl)⟩⟩)
  obtain ⟨hlist, hmounts⟩ := hcontainers _ (.overlay (Slot.root (.addon "mesh")) hserved hcontested)
  have hrejected : NamedList.ofList?
      ([{ name := "app" }, { name := "proxy" }, { name := "proxy" }, { name := "app" }] : List Volume) =
        .error ⟨"proxy"⟩ := rfl
  have hfirst := ((hoperations Volume).rejected _ _).1 hrejected
  exact ⟨_, _, rfl, rfl, rfl, hlist, hmounts, hfirst⟩

end PodLayers.Proofs
