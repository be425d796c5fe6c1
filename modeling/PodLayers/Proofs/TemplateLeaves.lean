import PodLayers.Proofs.TemplateParts

/-!
# Templates keep what was written

A value that is read as a template and written again keeps all its leaves, each in its place. The protocol
of a port and the scheme of a request are filled in where they were not given; no other leaf is added. The
value must name its records by mappings and its variants by texts, since both can be read from other forms.
-/

namespace PodLayers.Proofs
open Entries

variable {α : Type} {filled : List Step → Value → Prop} {fits : Value → Prop}

/-! ## Forms of values -/

/-- What is asked of the value under a key; nothing for a key without an entry. -/
def At (fields : List (String × (Value → Prop))) (key : String) (inner : Value) : Prop :=
  match find? key fields with
  | some fits => fits inner
  | none => True

/-- A record is a mapping, or null where it is left out. -/
def RecordSpelled (fields : List (String × (Value → Prop))) (v : Value) : Prop :=
  v.isNull = true ∨ v.isMapping = true ∧ ∀ key inner, v.get? key = some inner → At fields key inner

def ListSpelled (item : Value → Prop) (v : Value) : Prop := ∀ inner ∈ v.items, item inner

def VariantSpelled (v : Value) : Prop := ∃ s, v = .text s

def HttpGetSpelled : Value → Prop := RecordSpelled [("scheme", VariantSpelled)]

def ProbeSpelled : Value → Prop :=
  RecordSpelled [("httpGet", HttpGetSpelled), ("tcpSocket", RecordSpelled [])]

def PortSpelled : Value → Prop := RecordSpelled [("protocol", VariantSpelled)]

def ContainerSpelled : Value → Prop := RecordSpelled [
  ("env", ListSpelled (RecordSpelled [])),
  ("ports", ListSpelled PortSpelled),
  ("volumeMounts", ListSpelled (RecordSpelled [])),
  ("resources", RecordSpelled []),
  ("readinessProbe", ProbeSpelled)]

def ProjectionSpelled : Value → Prop := RecordSpelled [("serviceAccountToken", RecordSpelled [])]

def ProjectedSpelled : Value → Prop := RecordSpelled [("sources", ListSpelled ProjectionSpelled)]

def VolumeSpelled : Value → Prop := RecordSpelled [
  ("secret", RecordSpelled []),
  ("configMap", RecordSpelled []),
  ("emptyDir", RecordSpelled []),
  ("projected", ProjectedSpelled)]

def SpecSpelled : Value → Prop := RecordSpelled [
  ("initContainers", ListSpelled ContainerSpelled),
  ("containers", ListSpelled ContainerSpelled),
  ("volumes", ListSpelled VolumeSpelled)]

/-- Every record of a template is a mapping, and every variant is a text. -/
def TemplateSpelled : Value → Prop := RecordSpelled [("metadata", RecordSpelled []), ("spec", SpecSpelled)]

/-- The leaves that are filled in. -/
inductive FilledIn : List Step → Value → Prop
  | protocol {sect : String} (hsect : sect = "initContainers" ∨ sect = "containers") (i j : Nat) :
    FilledIn [.key "spec", .key sect, .index i, .key "ports", .index j, .key "protocol"] (.text "TCP")
  | scheme {sect : String} (hsect : sect = "initContainers" ∨ sect = "containers") (i : Nat) :
    FilledIn [.key "spec", .key sect, .index i, .key "readinessProbe", .key "httpGet", .key "scheme"]
      (.text "HTTP")

/-! ## Contents of fields -/

/-- What is read from a node of a given form restates it when it is written. -/
def Restating (filled : List Step → Value → Prop) (fits : Value → Prop) (read : Reader Value α)
    (write : α → Value) : Prop :=
  ∀ node a, node.Ordered → fits node → read node = .ok a →
    Restates filled (some node) (some (write a).arranged)

lemma restating_of_eq {read : Reader Value α} {write : α → Value}
    (h : ∀ node a, fits node → read node = .ok a → (write a).arranged = node) :
    Restating filled fits read write := by
  intro node a _ hfits hread
  rw [h node a hfits hread]
  exact restates_refl (some node)

lemma text_eq_ok {node : Value} {s : String} (h : Read.text node = .ok s) : node = .text s := by
  cases node with
  | text t => exact congrArg Value.text (Except.ok.inj h)
  | number n => cases n <;> cases h
  | null | bool | list | mapping => cases h

lemma restating_text : Restating filled fits Read.text .text :=
  restating_of_eq fun _ _ _ h => (text_eq_ok h).symm

lemma restating_bool : Restating filled fits Read.bool .bool := by
  refine restating_of_eq fun node b _ h => ?_
  cases node with
  | bool a => exact congrArg Value.bool (Except.ok.inj h).symm
  | number n => cases n <;> cases h
  | null | text | list | mapping => cases h

lemma natural_eq_ok {bound n : Nat} {expected : String} {node : Value}
    (h : Read.natural bound expected node = .ok n) : node = .ofNat n ∧ n < bound := by
  cases node with
  | number number =>
    cases number with
    | float x => cases h
    | integer i =>
      change (if 0 ≤ i ∧ i < bound then Except.ok i.toNat else fail _) = _ at h
      split at h
      · rename_i hbounds
        obtain rfl : i.toNat = n := Except.ok.inj h
        have hi : (i.toNat : Int) = i := Int.toNat_of_nonneg hbounds.1
        refine ⟨?_, by omega⟩
        rw [Value.ofNat, hi]
        rfl
      · cases h
  | null | bool | text | list | mapping => cases h

lemma restating_natural {bound : Nat} {expected : String} {ofNat : Nat → α} {write : α → Value}
    (h : ∀ n < bound, write (ofNat n) = .ofNat n) :
    Restating filled fits (fun node => (Read.natural bound expected node).map ofNat) write := by
  refine restating_of_eq fun node a _ hread => ?_
  obtain ⟨n, hn, rfl⟩ := (map_eq_ok_iff _ _ _).1 hread
  obtain ⟨rfl, hlt⟩ := natural_eq_ok hn
  rw [h n hlt]
  rfl

lemma restating_uint16 : Restating filled fits Read.uint16 Value.ofPort :=
  restating_natural fun _ hlt => congrArg Value.ofNat (UInt16.toNat_ofNat_of_lt' hlt)

lemma restating_uint32 : Restating filled fits Read.uint32 Value.ofWord :=
  restating_natural fun _ hlt => congrArg Value.ofNat (UInt32.toNat_ofNat_of_lt' hlt)

lemma variant_eq_ok {title s : String} {table : List (String × α)} {a : α}
    (h : Readable.variant title table (Value.text s) = .ok a) : (s, a) ∈ table := by
  change Value.variantNamed table s = .ok a at h
  unfold Value.variantNamed at h
  split at h
  · rename_i found hfound
    obtain rfl : found = a := Except.ok.inj h
    exact mem_of_find hfound
  · cases h

lemma restating_variant {title : String} {table : List (String × α)} {name : α → String}
    (h : ∀ entry ∈ table, name entry.2 = entry.1) :
    Restating filled VariantSpelled (Readable.variant title table) fun a => .text (name a) := by
  refine restating_of_eq fun node a hspelled hread => ?_
  obtain ⟨s, rfl⟩ := hspelled
  exact congrArg Value.text (h (s, a) (variant_eq_ok hread))

lemma restating_protocol : Restating filled VariantSpelled Protocol.read Protocol.encode :=
  restating_variant (by decide)

lemma restating_scheme : Restating filled VariantSpelled Scheme.read Scheme.encode :=
  restating_variant (by decide)

lemma restating_quantity : Restating filled fits Quantity.read Quantity.encode := by
  refine restating_of_eq fun node quantity _ h => ?_
  rw [Quantity.read, Read.checked, bind_eq_ok_iff] at h
  obtain ⟨s, hs, hchecked⟩ := h
  cases hparse : Quantity.parse s with
  | error fault => simp [hparse, Except.mapError, fail] at hchecked
  | ok parsed =>
    rw [hparse] at hchecked
    obtain rfl : parsed = quantity := Except.ok.inj hchecked
    rw [text_eq_ok hs, ← text_of_parse hparse]
    rfl

/-! ## Lists and maps -/

lemma items_rel {read : Reader Value α} {nodes : List Value} {index : Nat} {items : List α}
    (h : Read.items read index nodes = .ok items) (i : Nat) :
    Option.Rel (fun node a => read node = .ok a) nodes[i]? items[i]? := by
  induction nodes generalizing index items i with
  | nil =>
    obtain rfl : [] = items := Except.ok.inj h
    exact .none
  | cons node rest ih =>
    rw [Read.items, bind_eq_ok_iff] at h
    obtain ⟨a, ha, h⟩ := h
    rw [bind_eq_ok_iff] at h
    obtain ⟨others, hothers, h⟩ := h
    obtain rfl : a :: others = items := Except.ok.inj h
    cases i with
    | zero => exact .some ((below_eq_ok_iff _ _ _).1 ha)
    | succ i => exact ih hothers i

lemma restates_of_rel {read : Reader Value α} {write : α → Value} {held : Option Value}
    {content : Option α} (h : Option.Rel (fun node a => read node = .ok a) held content)
    (hheld : ∀ node, held = some node → node.Ordered ∧ fits node)
    (hrestating : Restating filled fits read write) :
    Restates filled held (content.map fun a => (write a).arranged) := by
  cases h with
  | none => exact restates_refl none
  | some hread => exact hrestating _ _ (hheld _ rfl).1 (hheld _ rfl).2 hread

lemma list_eq_ok {read : Reader Value α} {node : Value} {items : List α}
    (h : Read.list read node = .ok items) :
    ∃ nodes, node = .list nodes ∧ Read.items read 0 nodes = .ok items := by
  cases node with
  | list nodes => exact ⟨nodes, rfl, h⟩
  | number n => cases n <;> cases h
  | null | bool | text | mapping => cases h

lemma map_eq_ok {read : Reader Value α} {node : Value} {map : SortedMap α}
    (h : Read.map read node = .ok map) :
    ∃ nodes entries, node = .mapping nodes ∧ Read.entries read nodes = .ok entries ∧
      SortedMap.ofList entries = map := by
  cases node with
  | mapping nodes =>
    obtain ⟨entries, hentries, hmap⟩ := (map_eq_ok_iff _ _ _).1 h
    exact ⟨nodes, entries, rfl, hentries, hmap⟩
  | number n => cases n <;> cases h
  | null | bool | text | list => cases h

lemma orderedItems_iff (items : List Value) : Value.OrderedItems items ↔ ∀ item ∈ items, item.Ordered := by
  induction items with
  | nil => simp [Value.OrderedItems]
  | cons item rest ih => simp [Value.OrderedItems, ih]

lemma restating_list {read : Reader Value α} {write : α → Value}
    (h : ∀ i, Restating (after (.index i) filled) fits read write) :
    Restating filled (ListSpelled fits) (Read.list read) (Value.ofList write) := by
  intro node items hordered hfits hread
  obtain ⟨nodes, rfl, hitems⟩ := list_eq_ok hread
  rw [arranged_ofList]
  refine restates_list fun i => ?_
  rw [List.getElem?_map]
  refine restates_of_rel (items_rel hitems i) (fun item hitem => ?_) (h i)
  have hmem : item ∈ nodes := List.mem_of_getElem? hitem
  exact ⟨(orderedItems_iff nodes).1 hordered item hmem, hfits item hmem⟩

lemma restating_named [Named α] {read : Reader Value α} {write : α → Value}
    (h : ∀ i, Restating (after (.index i) filled) fits read write) :
    Restating filled (ListSpelled fits) (NamedList.read read) (NamedList.encode write) := by
  intro node list hordered hfits hread
  rw [NamedList.read, bind_eq_ok_iff] at hread
  obtain ⟨items, hitems, hlist⟩ := hread
  cases hnamed : NamedList.ofList? items with
  | error duplicate => simp [hnamed, fail] at hlist
  | ok named =>
    rw [hnamed] at hlist
    obtain rfl : named = list := Except.ok.inj hlist
    rw [NamedList.encode, toList_ofList? hnamed]
    exact restating_list h node items hordered hfits hitems

lemma restating_map {read : Reader Value α} {write : α → Value}
    (h : ∀ key, Restating (after (.key key) filled) (fun _ => True) read write) :
    Restating filled fits (Read.map read) (Value.ofMap write) := by
  intro node map hordered _ hread
  obtain ⟨nodes, entries, rfl, hentries, rfl⟩ := map_eq_ok hread
  obtain ⟨hkeys, hrel⟩ := entries_rel hentries
  have hd : (keys entries).Nodup := hkeys ▸ sorted_nodup hordered.1
  rw [arranged_ofMap]
  refine restates_mapping fun key => ?_
  have hfind : find? key (SortedMap.ofList entries).entries = find? key entries := find_ofList hd key
  rw [find_map fun a => (write a).arranged, hfind]
  refine restates_of_rel (hrel key) (fun inner hinner => ?_) (h key)
  exact ⟨ordered_of_find hordered.2 hinner, trivial⟩

/-! ## Records -/

/-- The part keeps the leaves of the node under its name, and adds none that may not be filled in. -/
structure RecordPart.Restating {ρ : Type} (p : RecordPart ρ) (filled : List Step → Value → Prop)
    (fits : Value → Prop) (blank : ρ) : Prop where
  present : ∀ node x, node.Ordered → fits node → p.read node = .ok (p.get x) →
    Restates filled (some node) (p.node x)
  absent : ∀ x, p.required = false → p.get x = p.get blank → Restates filled none (p.node x)

section Records

variable {ρ : Type} {name : String} {read : Reader Value α} {write : α → Value} {blank : ρ}

lemma restating_needed {get : ρ → α} {set : α → ρ → ρ} (h : Restating filled fits read write) :
    (RecordPart.needed name read write get set).Restating filled fits blank where
  present node x := h node (get x)
  absent x hrequired := by cases hrequired

lemma restating_completed {get : ρ → α} {set : α → ρ → ρ} (h : Restating filled fits read write)
    (hblank : Restates filled none (some (write (get blank)).arranged)) :
    (RecordPart.completed name read write get set).Restating filled fits blank where
  present node x := h node (get x)
  absent x _ hget := by
    have hcontent : get x = get blank := hget
    rw [← hcontent] at hblank
    exact hblank

lemma restating_whenPresent {get : ρ → Option α} {set : Option α → ρ → ρ} (hblank : get blank = none)
    (h : Restating filled fits read write) :
    (RecordPart.whenPresent name read write get set).Restating filled fits blank where
  present node x hordered hfits hread := by
    change Restates filled (some node) (((get x).map write).map Value.arranged)
    change Read.optional read node = .ok (get x) at hread
    cases hnull : node.isNull with
    | true =>
      obtain rfl : node = .null := by cases node <;> first | rfl | cases hnull
      obtain hnone : none = get x := Except.ok.inj hread
      rw [← hnone]
      exact restates_of_leafless leafless_null leafless_none
    | false =>
      rw [optional_of_isNull hnull, map_eq_ok_iff] at hread
      obtain ⟨a, ha, hx⟩ := hread
      rw [← hx]
      exact h node a hordered hfits ha
  absent x _ hget := by
    have hnone : get x = none := Eq.trans hget hblank
    change Restates filled none (((get x).map write).map Value.arranged)
    rw [hnone]
    exact restates_refl none

lemma restating_unlessEmpty {isEmpty : α → Bool} {get : ρ → α} {set : α → ρ → ρ}
    (hleafless : ∀ a, isEmpty a = true → Leafless (some (write a).arranged))
    (hblank : isEmpty (get blank) = true) (h : Restating filled fits read write) :
    (RecordPart.unlessEmpty name read write isEmpty get set).Restating filled fits blank where
  present node x hordered hfits hread := by
    have hwritten : Restates filled (some node) (some (write (get x)).arranged) :=
      h node (get x) hordered hfits hread
    change Restates filled (some node) ((if isEmpty (get x) then none else some (write (get x))).map _)
    cases hempty : isEmpty (get x) with
    | true => exact hwritten.leftOut (hleafless (get x) hempty)
    | false => exact hwritten
  absent x _ hget := by
    have hcontent : get x = get blank := hget
    change Restates filled none ((if isEmpty (get x) then none else some (write (get x))).map _)
    rw [hcontent, hblank]
    exact restates_refl none

variable {record : Record Value ρ} {encode : ρ → Value} {parts : List (RecordPart ρ)}
  {fields : List (String × (Value → Prop))}

lemma restating_record (h : PartsOf record encode parts)
    (hparts : ∀ p ∈ parts, p.Restating (after (.key p.name) filled) (At fields p.name) record.blank) :
    Restating filled (RecordSpelled fields) record.read encode := by
  intro node x hordered hspelled hread
  cases node with
  | mapping entries =>
    obtain ⟨hknown, hturns, hpresent⟩ := (h.ofEntries_eq_ok_iff (sorted_nodup hordered.1) x).1 hread
    have hfits : ∀ key inner, find? key entries = some inner → At fields key inner := by
      rcases hspelled with hnull | ⟨-, hfits⟩
      · cases hnull
      · exact hfits
    rw [h.arranged_encode]
    refine restates_mapping fun key => ?_
    by_cases hkey : ∃ p ∈ parts, p.name = key
    · obtain ⟨p, hp, rfl⟩ := hkey
      have hturn := hturns p hp
      rw [h.find_entriesOf hp]
      cases hfind : find? p.name entries with
      | none =>
        rw [hfind] at hturn
        have hrequired : p.required = false := by
          by_contra hrequired
          have hsome := hpresent p hp (Bool.not_eq_false _ ▸ hrequired)
          rw [hfind] at hsome
          cases hsome
        exact (hparts p hp).absent x hrequired hturn
      | some inner =>
        rw [hfind] at hturn
        exact (hparts p hp).present inner x (ordered_of_find hordered.2 hfind) (hfits _ _ hfind) hturn
    · -- a key that names no part is neither accepted nor written
      have hgiven : find? key entries = none :=
        (find_eq_none_iff key entries).2 fun hmem => hkey (hknown key hmem)
      have hwritten : find? key (PartsOf.entriesOf parts x) = none :=
        (find_eq_none_iff key _).2 fun hmem => hkey (h.mem_keys_entriesOf hmem)
      rw [hgiven, hwritten]
      exact restates_refl none
  | number n => cases n <;> cases hread
  | null | bool | text => cases hread
  | list items => exact hspelled.elim (fun hnull => by cases hnull) fun hmapping => by cases hmapping.1

end Records

/-! ## Templates -/

lemma restating_mount : Restating filled (RecordSpelled []) VolumeMount.record.read VolumeMount.encode := by
  refine restating_record partsOf_mount ?_
  simp only [mountParts, List.forall_mem_cons]
  exact ⟨restating_needed restating_text, restating_whenPresent rfl restating_text,
    restating_whenPresent rfl restating_bool, restating_whenPresent rfl restating_text,
    List.forall_mem_nil _⟩

lemma restating_secret :
    Restating filled (RecordSpelled []) SecretSource.record.read SecretSource.encode := by
  refine restating_record partsOf_secret ?_
  simp only [secretParts, List.forall_mem_cons]
  exact ⟨restating_needed restating_text, restating_whenPresent rfl restating_bool, List.forall_mem_nil _⟩

lemma restating_configMap :
    Restating filled (RecordSpelled []) ConfigMapSource.record.read ConfigMapSource.encode := by
  refine restating_record partsOf_configMap ?_
  simp only [configMapParts, List.forall_mem_cons]
  exact ⟨restating_needed restating_text, List.forall_mem_nil _⟩

lemma restating_emptyDir :
    Restating filled (RecordSpelled []) EmptyDirSource.record.read EmptyDirSource.encode := by
  refine restating_record partsOf_emptyDir ?_
  simp only [emptyDirParts, List.forall_mem_cons]
  exact ⟨restating_whenPresent rfl restating_text, List.forall_mem_nil _⟩

lemma restating_token :
    Restating filled (RecordSpelled []) TokenProjection.record.read TokenProjection.encode := by
  refine restating_record partsOf_token ?_
  simp only [tokenParts, List.forall_mem_cons]
  exact ⟨restating_needed restating_text, restating_whenPresent rfl restating_uint32,
    restating_whenPresent rfl restating_text, List.forall_mem_nil _⟩

lemma restating_projection :
    Restating filled ProjectionSpelled VolumeProjection.record.read VolumeProjection.encode := by
  refine restating_record partsOf_projection ?_
  simp only [projectionParts, List.forall_mem_cons]
  exact ⟨restating_whenPresent rfl restating_token, List.forall_mem_nil _⟩

lemma restating_projected :
    Restating filled ProjectedSpelled ProjectedSource.record.read ProjectedSource.encode := by
  refine restating_record partsOf_projected ?_
  simp only [projectedParts, List.forall_mem_cons]
  exact ⟨restating_completed (restating_list fun _ => restating_projection)
    (restates_of_leafless leafless_none leafless_list_nil), List.forall_mem_nil _⟩

lemma restating_volume : Restating filled VolumeSpelled Volume.record.read Volume.encode := by
  refine restating_record partsOf_volume ?_
  simp only [volumeParts, List.forall_mem_cons]
  exact ⟨restating_needed restating_text, restating_whenPresent rfl restating_secret,
    restating_whenPresent rfl restating_configMap, restating_whenPresent rfl restating_emptyDir,
    restating_whenPresent rfl restating_projected, List.forall_mem_nil _⟩

lemma restating_envVar : Restating filled (RecordSpelled []) EnvVar.record.read EnvVar.encode := by
  refine restating_record partsOf_envVar ?_
  simp only [envVarParts, List.forall_mem_cons]
  exact ⟨restating_needed restating_text, restating_whenPresent rfl restating_text, List.forall_mem_nil _⟩

lemma restating_port (hprotocol : filled [.key "protocol"] (.text "TCP")) :
    Restating filled PortSpelled ContainerPort.record.read ContainerPort.encode := by
  refine restating_record partsOf_port ?_
  simp only [portParts, List.forall_mem_cons]
  exact ⟨restating_whenPresent rfl restating_text, restating_needed restating_uint16,
    restating_completed restating_protocol (restates_filled trivial hprotocol), List.forall_mem_nil _⟩

lemma restating_resources :
    Restating filled (RecordSpelled []) Resources.record.read Resources.encode := by
  have hleafless (map : SortedMap Quantity) (hempty : map.isEmpty = true) :
      Leafless (some (Value.ofMap Quantity.encode map).arranged) :=
    sortedMap_eq_empty hempty ▸ leafless_mapping_nil
  refine restating_record partsOf_resources ?_
  simp only [resourcesParts, List.forall_mem_cons]
  exact ⟨restating_unlessEmpty hleafless rfl (restating_map fun _ => restating_quantity),
    restating_unlessEmpty hleafless rfl (restating_map fun _ => restating_quantity), List.forall_mem_nil _⟩

lemma restating_httpGet (hscheme : filled [.key "scheme"] (.text "HTTP")) :
    Restating filled HttpGetSpelled HttpGet.record.read HttpGet.encode := by
  refine restating_record partsOf_httpGet ?_
  simp only [httpGetParts, List.forall_mem_cons]
  exact ⟨restating_needed restating_text, restating_needed restating_uint16,
    restating_completed restating_scheme (restates_filled trivial hscheme), List.forall_mem_nil _⟩

lemma restating_tcpSocket :
    Restating filled (RecordSpelled []) TcpSocket.record.read TcpSocket.encode := by
  refine restating_record partsOf_tcpSocket ?_
  simp only [tcpSocketParts, List.forall_mem_cons]
  exact ⟨restating_needed restating_uint16, List.forall_mem_nil _⟩

lemma restating_probe (hscheme : filled [.key "httpGet", .key "scheme"] (.text "HTTP")) :
    Restating filled ProbeSpelled Probe.record.read Probe.encode := by
  refine restating_record partsOf_probe ?_
  simp only [probeParts, List.forall_mem_cons]
  exact ⟨restating_whenPresent rfl (restating_httpGet hscheme),
    restating_whenPresent rfl restating_tcpSocket, restating_whenPresent rfl restating_uint32,
    restating_whenPresent rfl restating_uint32, restating_whenPresent rfl restating_uint32,
    restating_whenPresent rfl restating_uint32, restating_whenPresent rfl restating_uint32,
    List.forall_mem_nil _⟩

lemma leafless_list {write : α → Value} (items : List α) (hempty : items.isEmpty = true) :
    Leafless (some (Value.ofList write items).arranged) := list_eq_nil hempty ▸ leafless_list_nil

lemma leafless_named {write : α → Value} (list : NamedList α) (hempty : list.isEmpty = true) :
    Leafless (some (list.encode write).arranged) := namedList_eq_empty hempty ▸ leafless_list_nil

lemma restating_texts : Restating filled fits (Read.list Read.text) (Value.ofList .text) := by
  have hlist : Restating filled (ListSpelled fun _ => True) (Read.list Read.text) (Value.ofList .text) :=
    restating_list fun _ => restating_text
  intro node items hordered _ hread
  exact hlist node items hordered (fun _ _ => trivial) hread

lemma restating_container
    (hprotocol : ∀ j, filled [.key "ports", .index j, .key "protocol"] (.text "TCP"))
    (hscheme : filled [.key "readinessProbe", .key "httpGet", .key "scheme"] (.text "HTTP")) :
    Restating filled ContainerSpelled Container.record.read Container.encode := by
  refine restating_record partsOf_container ?_
  simp only [containerParts, List.forall_mem_cons]
  exact ⟨restating_needed restating_text, restating_whenPresent rfl restating_text,
    restating_unlessEmpty leafless_list rfl restating_texts,
    restating_unlessEmpty leafless_list rfl (restating_list fun _ => restating_envVar),
    restating_unlessEmpty leafless_list rfl (restating_list fun j => restating_port (hprotocol j)),
    restating_unlessEmpty leafless_named rfl (restating_named fun _ => restating_mount),
    restating_whenPresent rfl restating_resources,
    restating_whenPresent rfl (restating_probe hscheme), List.forall_mem_nil _⟩

lemma restating_metadata : Restating filled (RecordSpelled []) Metadata.record.read Metadata.encode := by
  have hleafless (map : SortedMap String) (hempty : map.isEmpty = true) :
      Leafless (some (Value.ofMap .text map).arranged) :=
    sortedMap_eq_empty hempty ▸ leafless_mapping_nil
  refine restating_record partsOf_metadata ?_
  simp only [metadataParts, List.forall_mem_cons]
  exact ⟨restating_unlessEmpty hleafless rfl (restating_map fun _ => restating_text),
    restating_unlessEmpty hleafless rfl (restating_map fun _ => restating_text), List.forall_mem_nil _⟩

lemma restating_spec :
    Restating (after (.key "spec") FilledIn) SpecSpelled PodSpec.record.read PodSpec.encode := by
  have hcontainers {sect : String} (hsect : sect = "initContainers" ∨ sect = "containers") :
      Restating (after (.key sect) (after (.key "spec") FilledIn)) (ListSpelled ContainerSpelled)
        (NamedList.read Container.record.read) (NamedList.encode Container.encode) :=
    restating_named fun i => restating_container (fun j => .protocol hsect i j) (.scheme hsect i)
  refine restating_record partsOf_spec ?_
  simp only [specParts, List.forall_mem_cons]
  exact ⟨restating_unlessEmpty leafless_named rfl (hcontainers (.inl rfl)),
    restating_unlessEmpty leafless_named rfl (hcontainers (.inr rfl)),
    restating_unlessEmpty leafless_named rfl (restating_named fun _ => restating_volume),
    restating_whenPresent rfl restating_bool, restating_whenPresent rfl restating_text,
    List.forall_mem_nil _⟩

lemma restating_template :
    Restating FilledIn TemplateSpelled PodTemplate.record.read PodTemplate.encode := by
  refine restating_record partsOf_template ?_
  simp only [templateParts, List.forall_mem_cons]
  exact ⟨restating_unlessEmpty (fun m hempty => metadata_eq_empty hempty ▸ leafless_mapping_nil) rfl
      restating_metadata,
    restating_completed restating_spec (restates_of_leafless leafless_none leafless_mapping_nil),
    List.forall_mem_nil _⟩

/-- Every leaf of an override that is read as a template stands in the value of the template, in its place
and unchanged. The leaves of that value which the override lacks are protocols TCP and schemes HTTP, in
places where the override has nothing. -/
theorem toValue_restates {v : Value} {pod : PodTemplate} (hordered : v.Ordered)
    (hspelled : TemplateSpelled v) (h : (Override.raw v).pod = .ok pod) : Restates FilledIn (some v) (some pod.toValue) :=
  restating_template v pod hordered hspelled (read_of_decode h)

lemma recordSpelled_mapping {fields : List (String × (Value → Prop))} {entries : List (String × Value)}
    (h : ∀ entry ∈ entries, At fields entry.1 entry.2) : RecordSpelled fields (.mapping entries) :=
  .inr ⟨rfl, fun key inner hinner => h (key, inner) (mem_of_find hinner)⟩

/-- Two ports, of which one names its protocol. -/
def servingPorts : Value := .list [
  .mapping [("containerPort", .integer 5601)],
  .mapping [("containerPort", .integer 53), ("protocol", .text "UDP")]]

/-- A probe whose request has no scheme. -/
def servingProbe : Value :=
  .mapping [("httpGet", .mapping [("path", .text "/ready"), ("port", .integer 5601)])]

def servingContainer : Value := .mapping [
  ("image", .null), ("name", .text "kibana"), ("ports", servingPorts), ("readinessProbe", servingProbe)]

def servingOverride : Value := .mapping [
  ("metadata", .mapping [("labels", .mapping [("team", .text "search")])]),
  ("spec", .mapping [("containers", .list [servingContainer])])]

lemma portsSpelled_serving : ListSpelled PortSpelled servingPorts := by
  simp only [ListSpelled, servingPorts, Value.items, List.forall_mem_cons]
  refine ⟨recordSpelled_mapping ?_, recordSpelled_mapping ?_, List.forall_mem_nil _⟩
  · exact List.forall_mem_singleton.2 trivial
  · exact List.forall_mem_cons.2 ⟨trivial, List.forall_mem_singleton.2 ⟨"UDP", rfl⟩⟩

lemma probeSpelled_serving : ProbeSpelled servingProbe := by
  refine recordSpelled_mapping (List.forall_mem_singleton.2 (recordSpelled_mapping ?_))
  exact List.forall_mem_cons.2 ⟨trivial, List.forall_mem_singleton.2 trivial⟩

lemma templateSpelled_serving : TemplateSpelled servingOverride := by
  have hcontainer : ContainerSpelled servingContainer := by
    refine recordSpelled_mapping ?_
    simp only [List.forall_mem_cons]
    exact ⟨trivial, trivial, portsSpelled_serving, probeSpelled_serving, List.forall_mem_nil _⟩
  refine recordSpelled_mapping (List.forall_mem_cons.2 ⟨?_, List.forall_mem_singleton.2 ?_⟩)
  · exact recordSpelled_mapping (List.forall_mem_singleton.2 trivial)
  · exact recordSpelled_mapping (List.forall_mem_singleton.2 (List.forall_mem_singleton.2 hcontainer))

theorem toValue_restates_serving :
    ∃ pod, (Override.raw servingOverride).pod = .ok pod ∧ servingOverride.Ordered ∧
      TemplateSpelled servingOverride ∧ Restates FilledIn (some servingOverride) (some pod.toValue) ∧
      nodeAt (some pod.toValue) [.key "spec", .key "containers", .index 0, .key "ports", .index 0,
        .key "protocol"] = some (.text "TCP") := by
  obtain ⟨pod, hpod, hprotocol⟩ : ∃ pod, (Override.raw servingOverride).pod = .ok pod ∧
      nodeAt (some pod.toValue) [.key "spec", .key "containers", .index 0, .key "ports", .index 0,
        .key "protocol"] = some (.text "TCP") := ⟨_, rfl, rfl⟩
  have hordered : servingOverride.Ordered := by
    simp only [servingOverride, servingContainer, servingPorts, servingProbe, Value.integer, Value.Ordered,
      Value.OrderedEntries, Value.OrderedItems, Sorted]
    decide
  exact ⟨pod, hpod, hordered, templateSpelled_serving,
    toValue_restates hordered templateSpelled_serving hpod, hprotocol⟩

end PodLayers.Proofs
