import PodLayers.Toml.Scalar

/-!
# Reading TOML text

A document is a sequence of lines, each one a header, an assignment or blank. Values may nest up to a
bound, which is the recursion of the reader; its loops are bounded by the length of the text.
-/

namespace PodLayers.Toml

/-- How many brackets may be open at once, and how many parts a key may have. -/
def maxDepth : Nat := 79

/-- Past a comment, if one stands in front; a comment holds no controls. -/
def skipComment (cs : List Char) : Option (List Char) :=
  match cs with
  | '#' :: rest =>
    let inside := rest.takeWhile fun c => c != '\n' && c != '\r'
    if inside.all isPlain then some (rest.dropWhile fun c => c != '\n' && c != '\r') else none
  | cs => some cs

def skipLines : Nat → List Char → Option (List Char)
  | 0, _ => none
  | steps + 1, cs => do
    let rest ← skipComment (skipBlanks cs)
    match newline? rest with
    | some rest => skipLines steps rest
    | none => return rest

def isBareKeyChar (c : Char) : Bool := c.isAlphanum || c == '_' || c == '-'

def simpleKey (cs : List Char) : Option (String × List Char) :=
  match lineString cs with
  | some result => some result
  | none =>
    let bare := cs.takeWhile isBareKeyChar
    if bare.isEmpty then none else some (String.ofList bare, cs.dropWhile isBareKeyChar)

/-- The parts of a dotted key, which has at least one and at most as many as given. -/
def keyParts : Nat → Scan (List String)
  | 0, _ => none
  | parts + 1, cs => do
    let (key, rest) ← simpleKey (skipBlanks cs)
    match skipBlanks rest with
    | '.' :: rest =>
      let (keys, rest) ← keyParts parts rest
      return (key :: keys, rest)
    | rest => return ([key], rest)

def dottedKey : Scan (List String) := keyParts maxDepth

/-- A key and an equals sign: the path of the key, its last part, and the text of the value. -/
def assignment (cs : List Char) : Option ((List String × String) × List Char) := do
  let (keys, rest) ← dottedKey cs
  let key ← keys.getLast?
  match rest with
  | '=' :: rest => return ((keys.dropLast, key), skipBlanks rest)
  | _ => none

def items (value : Scan Node) : Nat → Scan (List Node)
  | 0, _ => none
  | steps + 1, cs => do
    let cs ← skipLines (cs.length + 1) cs
    match cs with
    | ']' :: rest => return ([], rest)
    | cs =>
      let (item, rest) ← value cs
      match ← skipLines (rest.length + 1) rest with
      | ',' :: rest =>
        let (more, rest) ← items value steps rest
        return (item :: more, rest)
      | ']' :: rest => return ([item], rest)
      | _ => none

/-- The assignments of an inline table from the first one on, which stand on one line. -/
def assignments (value : Scan Node) : Nat → Drafts → Scan Drafts
  | 0, _, _ => none
  | steps + 1, entries, cs => do
    let ((path, key), rest) ← assignment cs
    let (node, rest) ← value rest
    let entries ← assignKey path key node entries
    match skipBlanks rest with
    | ',' :: rest => assignments value steps entries rest
    | '\x7d' :: rest => return (entries, rest)
    | _ => none

def value : Nat → Scan Node
  | depth, cs =>
    match cs with
    | '[' :: rest =>
      match depth with
      | 0 => none
      | depth + 1 => (items (value depth) (rest.length + 1) rest).map fun (nodes, rest) => (.array nodes, rest)
    | '\x7b' :: rest =>
      match depth with
      | 0 => none
      | depth + 1 =>
        match skipBlanks rest with
        | '\x7d' :: rest => some (.table [], rest)
        | rest =>
          (assignments (value depth) (rest.length + 1) [] rest).map fun (entries, rest) =>
            (.table (finishEntries entries), rest)
    | cs =>
      if cs.head? = some '"' ∨ cs.head? = some '\'' then
        (string cs).map fun (s, rest) => (.text s, rest)
      else
        let (first, rest) := word cs
        (ofWord first).map fun node => (node, rest)

/-- A header: whether it starts a new element of an array, and its keys. -/
def header (cs : List Char) : Option ((Bool × List String) × List Char) := do
  let (element, rest) := match cs with
    | '[' :: rest => (true, rest)
    | rest => (false, rest)
  let (keys, rest) ← dottedKey rest
  match element, rest with
  | true, ']' :: ']' :: rest => return ((true, keys), rest)
  | false, ']' :: rest => return ((false, keys), rest)
  | _, _ => none

/-- The document so far and the path of the table that assignments go to. -/
structure State where
  root : Drafts
  current : List String

def State.open (state : State) (element : Bool) (keys : List String) : Option State := do
  let key ← keys.getLast?
  let act := if element then openElement key else openTable key
  let root ← atTable .implied (fun _ entries => act entries) keys.dropLast .headed state.root
  return ⟨root, keys⟩

def State.assign (state : State) (path : List String) (key : String) (node : Node) : Option State := do
  let root ← atTable .implied (fun _ entries => assignKey path key node entries) state.current .headed
    state.root
  return { state with root }

def endOfLine (cs : List Char) : Option (List Char) := do
  let rest ← skipComment (skipBlanks cs)
  if rest.isEmpty then return [] else newline? rest

def lines : Nat → State → List Char → Option State
  | 0, _, _ => none
  | steps + 1, state, cs => do
    let cs ← skipLines (cs.length + 1) cs
    match cs with
    | [] => return state
    | '[' :: rest =>
      let ((element, keys), rest) ← header rest
      lines steps (← state.open element keys) (← endOfLine rest)
    | cs =>
      let ((path, key), rest) ← assignment cs
      let (node, rest) ← value maxDepth rest
      lines steps (← state.assign path key node) (← endOfLine rest)

/-- The entries of a document; nothing when the text is not well formed. -/
def read (text : String) : Option (List (String × Node)) := do
  let cs := match text.toList with
    | '\ufeff' :: rest => rest
    | cs => cs
  let state ← lines (cs.length + 1) ⟨[], []⟩ cs
  return finishEntries state.root

end PodLayers.Toml
