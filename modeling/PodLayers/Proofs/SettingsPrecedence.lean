import Mathlib
import PodLayers.Proofs.SettingParts

/-!
# Precedence of settings

A setting that is loaded is the one of the environment, else the one of the file, else the default. This holds
setting by setting, so a table given in part by each of them loses nothing, and the named amounts of a resource
block are united.
-/

namespace PodLayers.Proofs
open Entries

/-- A single setting. -/
inductive Leaf
  | workload (part : SettingPart Workload) (h : part ∈ workloadParts)
  | limit (name : String)
  | request (name : String)
  | shardShim (part : SettingPart ShardShim) (h : part ∈ shardShimParts)
  | monitoring (part : SettingPart Monitoring) (h : part ∈ monitoringParts)

namespace Leaf

/-- The table in which the setting stands. -/
def way : Leaf → List String
  | workload _ _ => ["workload"]
  | limit _ => ["default_resources", "limits"]
  | request _ => ["default_resources", "requests"]
  | shardShim _ _ => ["shard_shim"]
  | monitoring _ _ => ["monitoring"]

def key : Leaf → String
  | workload part _ => part.name
  | limit name | request name => name
  | shardShim part _ => part.name
  | monitoring part _ => part.name

def path (leaf : Leaf) : List String := leaf.way ++ [leaf.key]

def Content : Leaf → Type
  | workload part _ => part.Content
  | limit _ | request _ => Quantity
  | shardShim part _ => part.Content
  | monitoring part _ => part.Content

def read : (leaf : Leaf) → Reader Setting leaf.Content
  | workload part _ => part.read
  | limit _ | request _ => Quantity.read
  | shardShim part _ => part.read
  | monitoring part _ => part.read

/-- What the settings have; an amount need not be there. -/
def get : (leaf : Leaf) → Settings → Option leaf.Content
  | workload part _, settings => some (part.get settings.workload)
  | limit name, settings => settings.defaultResources.limits.find? name
  | request name, settings => settings.defaultResources.requests.find? name
  | shardShim part _, settings => some (part.get settings.shardShim)
  | monitoring part _, settings => some (part.get settings.monitoring)

end Leaf

/-- The tree that a settings file adds; without a file it is empty. -/
def fileTree : Option SettingsFile → Except SettingsFault Setting
  | none => .ok (.table .defaults [])
  | some file => Settings.readFile file

lemma inKeyOrder_fileTree {file : Option SettingsFile} {tree : Setting} (h : fileTree file = .ok tree) :
    InKeyOrder tree := by
  cases file with
  | none => exact Except.ok.inj h ▸ inKeyOrder_empty .defaults
  | some file => exact inKeyOrder_readFile h

lemma checked_eq_ok_iff (read settings : Settings) :
    read.checked = .ok settings ↔ read = settings ∧ settings.problem? = none := by
  unfold Settings.checked
  cases hproblem : read.problem? with
  | some problem =>
    constructor
    · intro h
      cases h
    · rintro ⟨rfl, hnone⟩
      rw [hproblem] at hnone
      cases hnone
  | none =>
    constructor
    · intro h
      obtain rfl : read = settings := Except.ok.inj h
      exact ⟨rfl, hproblem⟩
    · rintro ⟨rfl, -⟩
      rfl

lemma ofTree_eq_ok_iff (tree : Setting) (settings : Settings) :
    Settings.ofTree tree = .ok settings ↔ Settings.record.read tree = .ok settings := by
  unfold Settings.ofTree
  cases Settings.record.read tree <;> simp

lemma ofLayers_eq_ok_iff (layers : List Setting) (settings : Settings) :
    Settings.ofLayers layers = .ok settings ↔
      Settings.record.read (layers.foldl Setting.merge Settings.defaultTree) = .ok settings ∧
        settings.problem? = none := by
  rw [Settings.ofLayers, bind_eq_ok_iff]
  simp only [mapError_eq_ok_iff, ofTree_eq_ok_iff, checked_eq_ok_iff]
  constructor
  · rintro ⟨_, hread, rfl, hproblem⟩
    exact ⟨hread, hproblem⟩
  · rintro ⟨hread, hproblem⟩
    exact ⟨settings, hread, rfl, hproblem⟩

/-- The settings are read of three trees. -/
lemma load_eq_ok_iff (file : Option SettingsFile) (environment : List (String × String))
    (settings : Settings) :
    Settings.load file environment = .ok settings ↔
      ∃ tree, fileTree file = .ok tree ∧
        Settings.record.read ((Settings.defaultTree.merge tree).merge (Environment.read environment)) =
          .ok settings ∧
        settings.problem? = none := by
  cases file with
  | none =>
    -- an empty table of defaults changes nothing
    have hempty : Settings.defaultTree.merge (.table .defaults []) = Settings.defaultTree := rfl
    rw [Settings.load, ofLayers_eq_ok_iff]
    constructor
    · intro h
      exact ⟨_, rfl, hempty.symm ▸ h⟩
    · rintro ⟨tree, htree, h⟩
      obtain rfl : .table .defaults [] = tree := Except.ok.inj htree
      rwa [hempty] at h
  | some file =>
    rw [Settings.load, bind_eq_ok_iff]
    simp only [mapError_eq_ok_iff, ofLayers_eq_ok_iff]
    rfl

/-! ## Tables that are always there -/

/-- What stands at a path is read as a part of what the tree is read as. -/
def Finds {α β : Type} (read : Reader Setting α) (path : List String) (inner : Reader Setting β)
    (get : α → β) : Prop :=
  ∀ tree setting a, InKeyOrder tree → Passable path tree → tree.at? path = some setting →
    read tree = .ok a → inner setting = .ok (get a)

lemma Finds.trans {α β γ : Type} {read : Reader Setting α} {inner : Reader Setting β}
    {innermost : Reader Setting γ} {path rest : List String} {get : α → β} {get' : β → γ}
    (h : Finds read path inner get) (h' : Finds inner rest innermost get') :
    Finds read (path ++ rest) innermost (get' ∘ get) := by
  intro tree setting a horder hpassable hat hread
  rw [at_append] at hat
  obtain ⟨middle, hmiddle, hat⟩ := Option.bind_eq_some_iff.1 hat
  have hpath : Passable path tree := hpassable.of_prefix (List.prefix_append _ _)
  exact h' middle setting (get a) (horder.of_at hpath hmiddle) (hpassable.below hmiddle) hat
    (h tree middle a horder hpath hmiddle hread)

lemma ConsistsOf.finds {ρ : Type} {record : Record Setting ρ} {parts : List (SettingPart ρ)}
    (h : ConsistsOf record parts) {p : SettingPart ρ} (hp : p ∈ parts) :
    Finds record.read [p.name] p.read p.get := by
  intro tree setting x horder hpassable hat hread
  obtain ⟨source, entries, rfl, -⟩ := (passable_cons _ _ _).1 hpassable
  have hfind : find? p.name entries = some setting := by
    rw [at_table_cons] at hat
    obtain ⟨inner, hinner, hat⟩ := Option.bind_eq_some_iff.1 hat
    exact Option.some.inj hat ▸ hinner
  have hsettled := h.settled_of_read hp (sorted_nodup horder.entries.1) hread
  rw [hfind] at hsettled
  obtain ⟨a, ha, hcontent⟩ := hsettled
  exact Option.some.inj hcontent ▸ ha

/-- A table that the defaults have, and what it is in the settings. -/
structure Standing {α : Type} (way : List String) (read : Reader Setting α) (get : Settings → α) : Prop where
  finds : Finds Settings.record.read way read get
  passable : Passable way Settings.defaultTree
  default : ∃ source entries, Settings.defaultTree.at? way = some (.table source entries)

lemma standing_workload : Standing ["workload"] Workload.record.read Settings.workload where
  finds := consistsOf_settings.finds (List.getElem_mem (n := 0) (by decide))
  passable := by decide +kernel
  default := ⟨_, _, rfl⟩

lemma finds_resources : Finds Settings.record.read ["default_resources"] Resources.record.read
    Settings.defaultResources := consistsOf_settings.finds (List.getElem_mem (n := 1) (by decide))

lemma standing_limits : Standing ["default_resources", "limits"] (Read.map Quantity.read)
    (fun settings => settings.defaultResources.limits) where
  finds := finds_resources.trans (consistsOf_resources.finds (List.getElem_mem (n := 0) (by decide)))
  passable := by decide +kernel
  default := ⟨_, _, rfl⟩

lemma standing_requests : Standing ["default_resources", "requests"] (Read.map Quantity.read)
    (fun settings => settings.defaultResources.requests) where
  finds := finds_resources.trans (consistsOf_resources.finds (List.getElem_mem (n := 1) (by decide)))
  passable := by decide +kernel
  default := ⟨_, _, rfl⟩

lemma standing_shardShim : Standing ["shard_shim"] ShardShim.record.read Settings.shardShim where
  finds := consistsOf_settings.finds (List.getElem_mem (n := 2) (by decide))
  passable := by decide +kernel
  default := ⟨_, _, rfl⟩

lemma standing_monitoring : Standing ["monitoring"] Monitoring.record.read Settings.monitoring where
  finds := consistsOf_settings.finds (List.getElem_mem (n := 3) (by decide))
  passable := by decide +kernel
  default := ⟨_, _, rfl⟩

lemma read_defaultTree : Settings.record.read Settings.defaultTree = .ok {} := rfl

section Standing

variable {α β : Type} {way : List String} {key : String} {read : Reader Setting α} {get : Settings → α}
variable {inner : Reader Setting β} {content : α → Option β} {fallback : Option β} {tree : Setting}

/-- A setting in a tree that has the table. -/
lemma Standing.settled_of_at (h : Standing way read get)
    (hkey : ∀ source entries a, (keys entries).Nodup → read (.table source entries) = .ok a →
      Settled inner fallback (find? key entries) (content a))
    (horder : InKeyOrder tree) (hpassable : Passable (way ++ [key]) tree) (hat : (tree.at? way).isSome)
    {settings : Settings} (hread : Settings.record.read tree = .ok settings) :
    Settled inner fallback (tree.at? (way ++ [key])) (content (get settings)) := by
  obtain ⟨hway, htable⟩ := (passable_concat way key tree).1 hpassable
  obtain ⟨setting, hat⟩ := Option.isSome_iff_exists.1 hat
  obtain ⟨source, entries, rfl⟩ := exists_entries_of_isTable (htable setting hat)
  have hfind : tree.at? (way ++ [key]) = find? key entries := by
    rw [at_append, hat, Option.bind_some, at_table_cons]
    exact Option.bind_fun_some _
  rw [hfind]
  have hentries : InKeyOrder (.table source entries) := horder.of_at hway hat
  have hfound := h.finds tree _ settings horder hway hat hread
  exact hkey source entries _ (sorted_nodup hentries.entries.1) hfound

lemma Standing.passable_setting (h : Standing way read get) (key : String) :
    Passable (way ++ [key]) Settings.defaultTree := by
  obtain ⟨source, entries, hdefault⟩ := h.default
  refine (passable_concat _ _ _).2 ⟨h.passable, fun setting hat => ?_⟩
  obtain rfl : .table source entries = setting := Option.some.inj (hdefault.symm.trans hat)
  rfl

/-- The defaults answer where neither tree has the setting. -/
lemma Standing.settled (h : Standing way read get)
    (hkey : ∀ source entries a, (keys entries).Nodup → read (.table source entries) = .ok a →
      Settled inner fallback (find? key entries) (content a)) {environment : Setting}
    (htreeOrder : InKeyOrder tree) (htree : RoomFor (way ++ [key]) tree)
    (henvironmentOrder : InKeyOrder environment) (henvironment : RoomFor (way ++ [key]) environment)
    {settings : Settings}
    (hread : Settings.record.read ((Settings.defaultTree.merge tree).merge environment) = .ok settings) :
    Settled inner (content (get {})) ((environment.at? (way ++ [key])).or (tree.at? (way ++ [key])))
      (content (get settings)) := by
  have hway : way <+: way ++ [key] := List.prefix_append _ _
  have hne : way ≠ way ++ [key] := by simp
  obtain ⟨source, entries, hdefault⟩ := h.default
  have hdefaults : Passable (way ++ [key]) Settings.defaultTree := h.passable_setting key
  have hfile : Passable (way ++ [key]) (Settings.defaultTree.merge tree) :=
    passable_merge hdefaults htree.passable htreeOrder
  have hmerged : Passable (way ++ [key]) ((Settings.defaultTree.merge tree).merge environment) :=
    passable_merge hfile henvironment.passable henvironmentOrder
  have horder : InKeyOrder ((Settings.defaultTree.merge tree).merge environment) :=
    inKeyOrder_merge (inKeyOrder_merge inKeyOrder_defaultTree htreeOrder) henvironmentOrder
  obtain ⟨held, hheld, -⟩ := isTable_at_merge hway hne hdefaults htree.passable htreeOrder hdefault
  obtain ⟨table, htable, -⟩ := isTable_at_merge hway hne hfile henvironment.passable henvironmentOrder hheld
  have hlower : Settled inner fallback (Settings.defaultTree.at? (way ++ [key])) (content (get {})) :=
    h.settled_of_at hkey inKeyOrder_defaultTree hdefaults (Option.isSome_of_eq_some hdefault) read_defaultTree
  have hloaded := h.settled_of_at hkey horder hmerged (Option.isSome_of_eq_some htable) hread
  rw [at_merge_leaf hfile henvironment henvironmentOrder, at_merge_leaf hdefaults htree htreeOrder,
    ← Option.or_assoc] at hloaded
  exact hlower.of_or hloaded

end Standing

/-- A setting that is loaded is what the environment says, else what the file says, else the default, wherever
both have room for it. -/
theorem load_precedence {file : Option SettingsFile} {environment : List (String × String)}
    {settings : Settings} (h : Settings.load file environment = .ok settings) :
    settings.problem? = none ∧ ∃ tree, fileTree file = .ok tree ∧
      ∀ leaf : Leaf, RoomFor leaf.path tree → RoomFor leaf.path (Environment.read environment) →
        Settled leaf.read (leaf.get {})
          (((Environment.read environment).at? leaf.path).or (tree.at? leaf.path)) (leaf.get settings) := by
  obtain ⟨tree, htree, hread, hproblem⟩ := (load_eq_ok_iff _ _ _).1 h
  refine ⟨hproblem, tree, htree, fun leaf hroom hroomEnvironment => ?_⟩
  have htreeOrder : InKeyOrder tree := inKeyOrder_fileTree htree
  have henvironmentOrder : InKeyOrder (Environment.read environment) := inKeyOrder_read environment
  cases leaf with
  | workload part hpart =>
    exact standing_workload.settled (fun _ _ _ hd => consistsOf_workload.settled_of_read hpart hd)
      htreeOrder hroom henvironmentOrder hroomEnvironment hread
  | limit name =>
    exact standing_limits.settled (fun _ _ _ hd hmap => settled_of_map hd hmap name)
      htreeOrder hroom henvironmentOrder hroomEnvironment hread
  | request name =>
    exact standing_requests.settled (fun _ _ _ hd hmap => settled_of_map hd hmap name)
      htreeOrder hroom henvironmentOrder hroomEnvironment hread
  | shardShim part hpart =>
    exact standing_shardShim.settled (fun _ _ _ hd => consistsOf_shardShim.settled_of_read hpart hd)
      htreeOrder hroom henvironmentOrder hroomEnvironment hread
  | monitoring part hpart =>
    exact standing_monitoring.settled (fun _ _ _ hd => consistsOf_monitoring.settled_of_read hpart hd)
      htreeOrder hroom henvironmentOrder hroomEnvironment hread

/-- A limit in the file and one in the environment, and a period in both. -/
def tunedFile : SettingsFile where
  name := "composer.toml"
  text := "default_resources.limits.cpu = \"2\"\n\n[monitoring]\nperiod = \"30s\"\ndefault_output = \"main\"\n"

def tunedEnvironment : List (String × String) := [
  ("POD_COMPOSER_MONITORING__PERIOD", "1m"),
  ("POD_COMPOSER_DEFAULT_RESOURCES__LIMITS__MEMORY", "2Gi")]

def tunedTree : Setting :=
  let source := Source.file "composer.toml"
  .table source [
    ("default_resources", .table source [("limits", .table source [("cpu", .text source "2")])]),
    ("monitoring", .table source [("default_output", .text source "main"), ("period", .text source "30s")])]

def tunedSettings : Settings where
  defaultResources :=
    { limits := .ofList [("cpu", Quantity.mk "2"), ("memory", Quantity.mk "2Gi")],
      requests := .ofList [("memory", Quantity.mk "1Gi")] }
  monitoring := { period := "1m", defaultOutput := "main" }

def tunedLeaves : List Leaf := [
  .monitoring monitoringParts[0] (List.getElem_mem _), .monitoring monitoringParts[1] (List.getElem_mem _),
  .monitoring monitoringParts[3] (List.getElem_mem _),
  .limit "cpu", .limit "memory", .request "memory", .request "cpu"]

lemma fileTree_tuned : fileTree (some tunedFile) = .ok tunedTree := by
  have hnodes : Toml.read tunedFile.text = some [
      ("default_resources", .table [("limits", .table [("cpu", .text "2")])]),
      ("monitoring", .table [("period", .text "30s"), ("default_output", .text "main")])] := by cbv
  rw [fileTree, Settings.readFile, hnodes]
  rfl

lemma read_tuned : Environment.read tunedEnvironment = .table .environment [
    ("default_resources", .table .environment [
      ("limits", .table .environment [("memory", .text .environment "2Gi")])]),
    ("monitoring", .table .environment [("period", .text .environment "1m")])] := by
  have hperiod : Environment.path? "POD_COMPOSER_MONITORING__PERIOD" = some ["monitoring", "period"] := by
    decide +kernel
  have hmemory : Environment.path? "POD_COMPOSER_DEFAULT_RESOURCES__LIMITS__MEMORY" =
      some ["default_resources", "limits", "memory"] := by decide +kernel
  have hminute : Environment.setting "1m" = .text .environment "1m" := rfl
  have hamount : Environment.setting "2Gi" = .text .environment "2Gi" := rfl
  simp only [Environment.read, tunedEnvironment, List.foldl_cons, List.foldl_nil, hperiod, hmemory, hminute,
    hamount]
  rfl

lemma load_tuned : Settings.load (some tunedFile) tunedEnvironment = .ok tunedSettings := by
  have hread : Settings.record.read ((Settings.defaultTree.merge tunedTree).merge
      (Environment.read tunedEnvironment)) = .ok tunedSettings := by
    rw [read_tuned]
    rfl
  have hproblem : tunedSettings.problem? = none := by decide +kernel
  exact (load_eq_ok_iff _ _ _).2 ⟨tunedTree, fileTree_tuned, hread, hproblem⟩

theorem load_precedence_tuned :
    Settings.load (some tunedFile) tunedEnvironment = .ok tunedSettings ∧
      fileTree (some tunedFile) = .ok tunedTree ∧
      ∀ leaf ∈ tunedLeaves,
        RoomFor leaf.path tunedTree ∧ RoomFor leaf.path (Environment.read tunedEnvironment) ∧
          Settled leaf.read (leaf.get {})
            (((Environment.read tunedEnvironment).at? leaf.path).or (tunedTree.at? leaf.path))
            (leaf.get tunedSettings) := by
  have hroom : ∀ leaf ∈ tunedLeaves, RoomFor leaf.path tunedTree := by decide +kernel
  have hroomEnvironment : ∀ leaf ∈ tunedLeaves, RoomFor leaf.path (Environment.read tunedEnvironment) := by
    rw [read_tuned]
    decide +kernel
  obtain ⟨-, tree, htree, hsettled⟩ := load_precedence load_tuned
  obtain rfl : tree = tunedTree := Except.ok.inj (htree.symm.trans fileTree_tuned)
  exact ⟨load_tuned, htree, fun leaf hleaf =>
    ⟨hroom leaf hleaf, hroomEnvironment leaf hleaf,
      hsettled leaf (hroom leaf hleaf) (hroomEnvironment leaf hleaf)⟩⟩

end PodLayers.Proofs
