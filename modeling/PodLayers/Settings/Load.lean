import PodLayers.Assembly.Issue
import PodLayers.Settings.Environment
import PodLayers.Toml.Reader

/-!
# Loading settings

The defaults, the settings file and the environment are laid over each other in this order, read as
settings and checked.
-/

namespace PodLayers

namespace Setting

/-- The key under which a date stands in the place of a text. -/
def momentKey : String := "$__toml_private_datetime"

/-- The key of a table that stands for the value under this key. -/
def wrappedKey : String := "___figment_value_value"

/-- The key of a table under which a number may stand that is not used. -/
def numberKey : String := "___figment_value_id"

/-- A table may have no other value than a natural number under the key of numbers. -/
def numberFits (entries : List (String × Toml.Node)) : Bool :=
  match entries.lookup numberKey with
  | none => true
  | some (.integer i) => 0 ≤ i
  | some _ => false

/-- The setting of a table with the given entries, which may stand for one of its values. -/
def unwrapped (source : Source) (entries : List (String × Setting)) : Setting :=
  match entries.lookup wrappedKey with
  | some setting => setting
  | none => .table source (Entries.ofList (Entries.erase numberKey entries))

mutual

def ofToml? (source : Source) : Toml.Node → Option Setting
  | .text s => some (.text source s)
  | .integer i => some (.signed source i)
  | .float x => some (.fraction source x)
  | .bool b => some (.bool source b)
  | .moment s => some (.table source [(momentKey, .text source s)])
  | .array nodes => (ofTomlItems? source nodes).map (.list source)
  | .table entries =>
    if numberFits entries then (ofTomlEntries? source entries).map (unwrapped source) else none

def ofTomlItems? (source : Source) : List Toml.Node → Option (List Setting)
  | [] => some []
  | node :: rest => do return (← ofToml? source node) :: (← ofTomlItems? source rest)

def ofTomlEntries? (source : Source) : List (String × Toml.Node) → Option (List (String × Setting))
  | [] => some []
  | (key, node) :: rest => do return (key, ← ofToml? source node) :: (← ofTomlEntries? source rest)

end

end Setting

structure SettingsFile where
  name : String
  text : String

namespace Settings

def readFile (file : SettingsFile) : Except SettingsFault Setting :=
  let source := Source.file file.name
  match (Toml.read file.text).bind (Setting.ofTomlEntries? source) with
  | some entries => .ok (.table source (Entries.ofList entries))
  | none => .error (.unreadable file.name)

def defaultTree : Setting := Setting.ofValue .defaults (Settings.encode {}).arranged

def ofTree (tree : Setting) : Except SettingsFault Settings :=
  match Settings.record.read tree with
  | .ok settings => .ok settings
  | .error fault => .error (.misfit fault (tree.sourceAt fault.path))

def checked (settings : Settings) : Except Issue Settings :=
  match settings.problem? with
  | some problem => .error (.ofProblem problem)
  | none => .ok settings

/-- The settings of trees laid over the defaults. -/
def ofLayers (layers : List Setting) : Except Issue Settings := do
  let settings ← (ofTree (layers.foldl Setting.merge defaultTree)).mapError Issue.settings
  settings.checked

def load (file : Option SettingsFile) (environment : List (String × String)) : Except Issue Settings :=
  match file with
  | none => ofLayers [Environment.read environment]
  | some file => do
    let tree ← (readFile file).mapError Issue.settings
    ofLayers [tree, Environment.read environment]

end Settings

end PodLayers
