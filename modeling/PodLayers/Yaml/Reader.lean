import PodLayers.Text.Base64
import PodLayers.Yaml.Node
import PodLayers.Yaml.Plain
import PodLayers.Yaml.Token.Stream

/-!
# Values of YAML texts

`Yaml.read` gives the value of a text of one document. The keys of a mapping are texts, each given once,
where keys of different tags differ. Merged entries come behind the entries of the mapping's own and count
only if their keys are new; the value of an entry that does not count may be anything.
-/

namespace PodLayers.Yaml

def binaryText (text : String) : Except Problem String :=
  match Text.Base64.text? text.toList with
  | some text => .ok text
  | none => .error .badBinary

def scalarValue (tag : Option Tag) (style : Style) (text : String) : Except Problem Value :=
  match tag with
  | some .null => .ok .null
  | some .typed => .error .unsupportedTag
  | some .binary => return .text (← binaryText text)
  | _ => .ok (if style = .plain then plainValue text else .text text)

def Node.isMerge : Node → Bool
  | .scalar none .plain text => text == "<<"
  | _ => false

/-- Whether a plain scalar says that there is nothing to merge. -/
def saysNothing (style : Style) (text : String) : Bool :=
  style = .plain && ["", "~", "null"].contains (Literal.lower text.toList)

/-- The tag and the text of a key, as they are written. -/
abbrev KeyMark := Option Tag × String

def Node.keyMark : Node → Except Problem KeyMark
  | .scalar tag _ text => .ok (tag, text)
  | _ => .error .keyNotScalar

def KeyMark.text (mark : KeyMark) : Except Problem String :=
  match mark with
  | (some .null, _) | (some .typed, _) => .error .unsupportedTag
  | (some .binary, text) => binaryText text
  | (_, text) => .ok text

/-- An entry of a mapping. Its value need not be sound unless the entry counts. -/
structure Entry where
  mark : KeyMark
  key : String
  value : Except Problem Value

/-- The entries whose marks neither stand in a list nor occur before. -/
def newEntries (seen : List KeyMark) : List Entry → List Entry
  | [] => []
  | entry :: rest =>
    if seen.contains entry.mark then newEntries seen rest
    else entry :: newEntries (entry.mark :: seen) rest

/-- The value of a mapping of its own and of merged entries; of two entries with one key the later counts. -/
def assemble (own merged : List Entry) : Except Problem Value := do
  let marks := own.map Entry.mark
  if ¬ marks.Nodup then throw .repeatedKey
  let entries ← (own ++ newEntries marks merged).mapM fun entry => return (entry.key, ← entry.value)
  return .mapping (Entries.ofList entries)

mutual

def Node.value : Node → Except Problem Value
  | .scalar tag style text => scalarValue tag style text
  | .list items => do return .list (← itemValues items)
  | .mapping entries => do assemble (← ownEntries entries) (← mergedEntries entries)

def itemValues : List Node → Except Problem (List Value)
  | [] => return []
  | item :: rest => do return (← item.value) :: (← itemValues rest)

def ownEntries : List (Node × Node) → Except Problem (List Entry)
  | [] => return []
  | (key, value) :: rest => do
    if key.isMerge then ownEntries rest
    else
      let mark ← key.keyMark
      return ⟨mark, ← mark.text, value.value⟩ :: (← ownEntries rest)

/-- The entries that a mapping merges, the latest first. -/
def mergedEntries : List (Node × Node) → Except Problem (List Entry)
  | [] => return []
  | (key, value) :: rest => do
    let later ← mergedEntries rest
    if key.isMerge then return later ++ (← value.offered) else return later

def Node.offered : Node → Except Problem (List Entry)
  | .scalar _ style text => if saysNothing style text then .ok [] else .error .badMerge
  | .list items => itemsOffered items
  | .mapping entries => do return (← ownEntries entries) ++ (← mergedEntries entries)

/-- The entries that items offer to be merged, the latest first. -/
def itemsOffered : List Node → Except Problem (List Entry)
  | [] => return []
  | item :: rest => do return (← itemsOffered rest) ++ (← item.offered)

end

def hasStrayBrackets : List Char → Bool
  | [] => false
  | c :: rest => (c == ']' && rest.take 2 == [' ', ']']) || hasStrayBrackets rest

def endsInBrackets (cs : List Char) : Bool :=
  (Text.trim cs).reverse.take 2 == [']', ']'] && cs.count '[' < cs.count ']'

/-- The value of a text; a text without a node is null. -/
def read (text : String) : Except Problem Value :=
  let cs := if text.toList.head? = some '\ufeff' then text.toList.drop 1 else text.toList
  if hasStrayBrackets cs then .error .strayBrackets
  else do
    let (tokens, problem) := Token.ofText cs
    match ← Node.ofTokens tokens problem with
    | none => if endsInBrackets cs then .error .strayBrackets else return .null
    | some node => node.value

end PodLayers.Yaml
