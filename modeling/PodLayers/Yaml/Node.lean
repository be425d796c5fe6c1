import PodLayers.Yaml.Tag
import PodLayers.Yaml.Token.Basic

/-!
# YAML nodes

`Node.ofTokens` builds the node of a document from its tokens. References have become copies of what they
refer to, which is limited: a short text may not stand for a huge node.
-/

namespace PodLayers.Yaml

inductive Node
  | scalar (tag : Option Tag) (style : Style) (text : String)
  | list (items : List Node)
  | mapping (entries : List (Node × Node))
deriving Repr, Inhabited

/-- What stands for a node that is left out. -/
def Node.omitted : Node := .scalar none .plain "~"

mutual

/-- How much a node has to be read again where it is referred to: a collection has a beginning and an end. -/
def Node.size : Node → Nat
  | .scalar _ _ _ => 1
  | .list items => itemSizes items + 2
  | .mapping entries => entrySizes entries + 2

def itemSizes : List Node → Nat
  | [] => 0
  | item :: rest => item.size + itemSizes rest

def entrySizes : List (Node × Node) → Nat
  | [] => 0
  | (key, value) :: rest => key.size + value.size + entrySizes rest

end

/-- Where a node stands decides which blocks it may be: none within brackets, and below a key of a block
also a sequence that is not indented. -/
inductive Place
  | brackets
  | block
  | blockKey
deriving DecidableEq, Repr

structure Reading where
  rest : List Token
  problem : Option Problem
  handle : Option (String × String)
  /-- The anchors of the document in their order; an anchor has no node until its node is complete. -/
  anchors : Array (String × Option Node)
  /-- How many references there were, and the sizes of their nodes together. -/
  references : Nat
  copied : Nat

abbrev Build (α : Type) := StateT Reading (Except Problem) α

def ahead : Build Token := do
  let reading ← get
  match reading.rest with
  | [] => throw (reading.problem.getD .unexpectedToken)
  | token :: _ => return token

def pastToken : Build Unit := modify fun reading => { reading with rest := reading.rest.drop 1 }

def isAhead (tokens : List Token) : Build Bool := do
  let token ← ahead
  return tokens.contains token

def accept (token : Token) : Build Bool := do
  if ← isAhead [token] then
    pastToken
    return true
  else return false

/-- A bound on the tokens, and so on the nodes, still to come. -/
def tokensAhead : Build Nat := return (← get).rest.length + 1

/-! ## Tags, anchors and references -/

def nodeTag : Build (Option Tag) := do
  match ← ahead with
  | .tag handle suffix =>
    pastToken
    match Tag.resolve? (← get).handle handle suffix with
    | some tag => return some tag
    | none => throw .unknownHandle
  | _ => return none

def nodeAnchor : Build (Option Nat) := do
  match ← ahead with
  | .anchor name =>
    pastToken
    let number := (← get).anchors.size
    modify fun reading => { reading with anchors := reading.anchors.push (name, none) }
    return some number
  | _ => return none

def properties : Build (Option Nat × Option Tag) := do
  let anchor ← nodeAnchor
  let tag ← nodeTag
  return (anchor.or (← if anchor.isNone then nodeAnchor else pure none), tag)

def complete (anchor : Option Nat) (node : Node) : Build Unit :=
  match anchor with
  | none => pure ()
  | some number =>
    modify fun reading =>
      { reading with anchors := reading.anchors.modify number fun (name, _) => (name, some node) }

/-- How large all nodes that are referred to may be together, each counted for every reference. -/
def maxCopied : Nat := 1000000

/-- The node of the latest anchor of a name; a node cannot refer to itself. -/
def referred (name : String) : Build Node := do
  let reading ← get
  match reading.anchors.toList.reverse.lookup name with
  | some (some node) =>
    let copied := reading.copied + node.size
    if maxCopied < copied then throw .manyReferences
    set { reading with references := reading.references + 1, copied }
    return node
  | _ => throw .unknownAnchor

/-- Many references need an anchor for every ten of them. -/
def Reading.hasManyReferences (reading : Reading) : Bool :=
  100 ≤ reading.references && 10 * reading.anchors.size < reading.references

/-! ## Collections -/

def nodeUnless (ends : List Token) (inner : Build Node) : Build Node := do
  if ← isAhead ends then return .omitted else inner

def marked (mark : Token) (ends : List Token) (inner : Build Node) : Build Node := do
  if ← accept mark then nodeUnless ends inner else return .omitted

def blockItems (inner : Build Node) : Nat → Build (List Node)
  | 0 => throw .unexpectedToken
  | steps + 1 => do
    if ← accept .blockEnd then return []
    else if ← accept .blockEntry then
      let item ← nodeUnless [.blockEntry, .blockEnd] inner
      return item :: (← blockItems inner steps)
    else throw .unexpectedToken

/-- The items of a sequence that is not indented; any other token ends it. -/
def indentlessItems (inner : Build Node) : Nat → Build (List Node)
  | 0 => throw .unexpectedToken
  | steps + 1 => do
    if ← accept .blockEntry then
      let item ← nodeUnless [.blockEntry, .key, .value, .blockEnd] inner
      return item :: (← indentlessItems inner steps)
    else return []

def blockEntries (inner : Build Node) : Nat → Build (List (Node × Node))
  | 0 => throw .unexpectedToken
  | steps + 1 => do
    if ← accept .blockEnd then return []
    else if ← isAhead [.key, .value] then
      let key ← marked .key [.key, .value, .blockEnd] inner
      let value ← marked .value [.key, .value, .blockEnd] inner
      return (key, value) :: (← blockEntries inner steps)
    else throw .unexpectedToken

/-- An entry of a mapping in brackets; without marks a node is a key. -/
def flowPair (inner : Build Node) (close : Token) : Build (Node × Node) := do
  let key ←
    if ← accept .key then nodeUnless [.value, .flowEntry, close] inner
    else if ← isAhead [.value] then pure .omitted
    else inner
  let value ← marked .value [.flowEntry, close] inner
  return (key, value)

/-- An item of a sequence in brackets; one with the mark of a key is a mapping of one entry. Where the key
is left out, what stands in its place is passed over. -/
def flowItem (inner : Build Node) : Build Node := do
  if ← accept .key then
    let key ←
      if ← isAhead [.value, .flowEntry, .flowSequenceEnd] then do
        pastToken
        pure .omitted
      else inner
    let value ← marked .value [.flowEntry, .flowSequenceEnd] inner
    return .mapping [(key, value)]
  else inner

def flowParts {α : Type} (part : Build α) (close : Token) : Nat → Build (List α)
  | 0 => throw .unexpectedToken
  | steps + 1 => do
    if ← accept close then return []
    let first ← part
    if ← accept .flowEntry then return first :: (← flowParts part close steps)
    else if ← accept close then return [first]
    else throw .unexpectedToken

def deeper (inner : Option (Place → Build Node)) (place : Place) : Build (Build Node) :=
  match inner with
  | some inner => return inner place
  | none => throw .deepNesting

/-- What a node consists of behind its properties. Only properties can stand for a node without text. An
empty text with an anchor is plain. -/
def content (inner : Option (Place → Build Node)) (anchored : Bool) (tag : Option Tag) (place : Place) :
    Build Node := do
  let steps ← tokensAhead
  match ← ahead with
  | .scalar .unindented _ => throw .missingIndentation
  | .scalar style text =>
    pastToken
    return .scalar tag (if anchored && style = .quoted && text.isEmpty then .plain else style) text
  | .flowSequence =>
    let inner ← deeper inner .brackets
    pastToken
    return .list (← flowParts (flowItem inner) .flowSequenceEnd steps)
  | .flowMapping =>
    let inner ← deeper inner .brackets
    pastToken
    return .mapping (← flowParts (flowPair inner .flowMappingEnd) .flowMappingEnd steps)
  | token =>
    if token = .blockEntry ∧ place = .blockKey then
      let inner ← deeper inner .block
      return .list (← indentlessItems inner steps)
    else if token = .blockSequence ∧ place ≠ .brackets then
      let inner ← deeper inner .block
      pastToken
      return .list (← blockItems inner steps)
    else if token = .blockMapping ∧ place ≠ .brackets then
      let inner ← deeper inner .blockKey
      pastToken
      return .mapping (← blockEntries inner steps)
    else if !anchored && tag.isNone then throw .unexpectedToken
    else return .scalar tag .plain ""

def nodeAround (inner : Option (Place → Build Node)) (place : Place) : Build Node := do
  match ← ahead with
  | .reference name =>
    pastToken
    referred name
  | _ =>
    let (anchor, tag) ← properties
    let node ← content inner anchor.isSome tag place
    complete anchor node
    return node

/-- A node in which collections nest at most as deep as given. -/
def node : Nat → Place → Build Node
  | 0 => nodeAround none
  | depth + 1 => nodeAround (some (node depth))

def maxDepth : Nat := 2000

/-! ## Documents -/

/-- The directives in front of a document. The version is not given twice, and every directive takes back
the handle that the one before it declares. -/
def directives : Nat → Bool → Build Unit
  | 0, _ => throw .badDirective
  | steps + 1, versionSeen => do
    match ← ahead with
    | .version =>
      if versionSeen then throw .badDirective
      pastToken
      modify fun reading => { reading with handle := none }
      directives steps true
    | .tagHandle handle uri =>
      pastToken
      modify fun reading => { reading with handle := some (handle, uri) }
      directives steps versionSeen
    | _ => return

def Token.isDirective : Token → Bool
  | .version | .tagHandle _ _ => true
  | _ => false

inductive Opening
  | nothing
  /-- A marker stands for a document that is left out. -/
  | omitted
  | node

/-- Past everything in front of the node of a document, which needs a marker unless it may be bare. -/
def opening (bare : Bool) : Build Opening := do
  modify fun reading => { reading with rest := reading.rest.dropWhile (· == .documentEnd) }
  let token ← ahead
  if token = .streamEnd then return .nothing
  else if token.isDirective ∨ token = .documentStart then
    directives (← tokensAhead) false
    if !(← accept .documentStart) then throw .unexpectedToken
    let next ← ahead
    if next.isDirective ∨ next ∈ [Token.documentStart, .documentEnd, .streamEnd] then return .omitted
    else return .node
  else if bare then return .node
  else throw .unexpectedToken

def document : Build (Option Node) := do
  match ← opening true with
  | .nothing => return none
  | .omitted => return some .omitted
  | .node => return some (← node maxDepth .block)

def Token.beginsContent : Token → Bool
  | .scalar _ _ | .flowSequence | .flowMapping | .blockSequence | .blockMapping => true
  | _ => false

/-- Past the beginning of a node that stands on its own; anchors of the document before are unknown. -/
def nodeBeginning : Build Unit := do
  match ← ahead with
  | .reference _ => throw .unknownAnchor
  | _ =>
    let (anchor, tag) ← properties
    let token ← ahead
    match token with
    | .scalar .unindented _ => throw .missingIndentation
    | _ =>
      if anchor.isNone && tag.isNone && !token.beginsContent then throw .unexpectedToken

def anotherDocument (bare : Bool) : Build Bool := do
  match ← opening bare with
  | .nothing => return false
  | .omitted => return true
  | .node =>
    nodeBeginning
    return true

/-- Behind the node its document must end, and no other may begin. Text that can be no document is
ignored, and so is text that has no tokens, once the document has ended. -/
def documentEnding : Build Unit := do
  if (← ahead).isDirective then throw .badDirective
  let marked ← accept .documentEnd
  modify fun reading => { reading with handle := none }
  let another ← tryCatch (anotherDocument marked) fun _ => return false
  if another then throw .severalDocuments

def Node.ofTokens (tokens : List Token) (problem : Option Problem) : Except Problem (Option Node) := do
  let (node, reading) ← document.run ⟨tokens, problem, none, #[], 0, 0⟩
  if node.isSome then documentEnding.run' reading
  if reading.hasManyReferences then throw .manyReferences
  return node

end PodLayers.Yaml
