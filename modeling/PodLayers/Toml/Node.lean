import PodLayers.Number.Binary64
import PodLayers.Value.Entries

/-!
# TOML documents under construction

A document grows by headers and by assignments. A table remembers how it came into being, which decides
what may still be added to it: a header may name a table once, an assignment with a dotted key may only go
into tables made by dotted keys, and what stands behind an equals sign is closed.
-/

namespace PodLayers.Toml

inductive Node
  | text (s : String)
  | integer (i : Int)
  | float (x : Extended)
  | bool (b : Bool)
  | moment (s : String)
  | array (items : List Node)
  | table (entries : List (String × Node))
deriving Repr, Inhabited

inductive Form
  /-- Named by a header. -/
  | headed
  /-- On the way to a table named by a header. -/
  | implied
  /-- On the way of a dotted key. -/
  | dotted
deriving DecidableEq, Repr

inductive Draft
  | leaf (node : Node)
  | table (form : Form) (entries : List (String × Draft))
  | tables (elements : List (List (String × Draft)))
deriving Repr, Inhabited

abbrev Drafts := List (String × Draft)

def atLast {α : Type} (f : α → Option α) : List α → Option (List α)
  | [] => none
  | [a] => (f a).map ([·])
  | a :: rest => (atLast f rest).map (a :: ·)

/-- Changes the table at the end of a path of keys; tables on the way come into being with a given form. -/
def atTable (form : Form) (f : Form → Drafts → Option Drafts) : List String → Form → Drafts → Option Drafts
  | [], here, entries => f here entries
  | key :: path, _, entries =>
    match Entries.find? key entries with
    | none => do
      let inner ← atTable form f path form []
      return Entries.assign key (.table form inner) entries
    | some (.leaf _) => none
    | some (.tables elements) => do
      let elements ← atLast (atTable form f path .headed) elements
      return Entries.assign key (.tables elements) entries
    | some (.table there inner) =>
      if form = .dotted ∧ there = .headed then none
      else do
        let inner ← atTable form f path there inner
        return Entries.assign key (.table there inner) entries

def addNew (key : String) (draft : Draft) (entries : Drafts) : Option Drafts :=
  match Entries.find? key entries with
  | some _ => none
  | none => some (entries ++ [(key, draft)])

/-- The entries of a table after an assignment. A dotted key must end in a table of dotted keys. -/
def assignKey (path : List String) (key : String) (node : Node) (entries : Drafts) : Option Drafts :=
  if path.isEmpty then addNew key (.leaf node) entries
  else
    atTable .dotted (fun form entries => if form = .dotted then addNew key (.leaf node) entries else none)
      path .headed entries

/-- The table named by a header becomes open for assignments. -/
def openTable (key : String) (entries : Drafts) : Option Drafts :=
  match Entries.find? key entries with
  | none => some (entries ++ [(key, .table .headed [])])
  | some (.table .implied inner) => some (Entries.assign key (.table .headed inner) entries)
  | some _ => none

def openElement (key : String) (entries : Drafts) : Option Drafts :=
  match Entries.find? key entries with
  | none => some (entries ++ [(key, .tables [[]])])
  | some (.tables elements) => some (Entries.assign key (.tables (elements ++ [[]])) entries)
  | some _ => none

mutual

def Draft.finish : Draft → Node
  | .leaf node => node
  | .table _ entries => .table (finishEntries entries)
  | .tables elements => .array (finishElements elements)

def finishEntries : Drafts → List (String × Node)
  | [] => []
  | (key, draft) :: rest => (key, draft.finish) :: finishEntries rest

def finishElements : List Drafts → List Node
  | [] => []
  | entries :: rest => .table (finishEntries entries) :: finishElements rest

end

end PodLayers.Toml
