import PodLayers.Yaml.Token.Basic

/-!
# The text under the scanner

The scanner moves through the text with a record of where it stands, which indentations are open, and
where a key without a mark of its own may have begun. Such a key is recognised only at its colon; its token
then goes in front of the tokens scanned since. The end of the text reads as NUL, and so does everything
behind a NUL.
-/

namespace PodLayers.Yaml

/-- A place where a key without a mark of its own may have begun. -/
structure KeyStart where
  possible : Bool
  /-- A block mapping cannot go on without this key. -/
  required : Bool
  /-- How many tokens stand before the key. -/
  number : Nat
  index : Nat
  line : Nat
  column : Nat

def KeyStart.none : KeyStart := ⟨false, false, 0, 0, 0, 0⟩

/-- An indentation to return to. -/
structure Indent where
  column : Int
  /-- Whether leaving the inner indentation ends a block. -/
  endsBlock : Bool

/-- Scanned tokens, each with the column where it begins. -/
abbrev Placed := Token × Nat

structure State where
  rest : List Char
  index : Nat
  line : Nat
  column : Nat
  tokens : Array Placed
  /-- The place right behind a quoted or bracketed key, where a colon needs no blank. -/
  adjacent : Nat
  /-- Whether a key without a mark may begin here. -/
  keyAllowed : Bool
  /-- The latest place where a key may have begun, for every open bracket, innermost first, and for the
  blocks around them. -/
  keyStarts : List KeyStart
  indent : Int
  indents : List Indent
  /-- How many brackets are open. -/
  depth : Nat
  /-- Only blanks have been passed on this line. -/
  atLineStart : Bool
  /-- The latest brackets are braces, or hold a key with a mark. -/
  inMapping : Bool
  /-- For every open bracket, innermost first, whether a mapping without braces is open in it. -/
  implicitMappings : List Bool
  ended : Bool

def State.start (text : List Char) : State where
  rest := text.takeWhile (· != '\x00')
  index := 0
  line := 0
  column := 0
  tokens := #[]
  adjacent := 0
  keyAllowed := true
  keyStarts := [.none]
  indent := -1
  indents := []
  depth := 0
  atLineStart := true
  inMapping := false
  implicitMappings := []
  ended := false

abbrev Scan (α : Type) := StateT State (Except Problem) α

def fail {α : Type} (problem : Problem) : Scan α := throw problem

/-! ## Classes of characters -/

def isBlank (c : Char) : Bool := c == ' ' || c == '\t'

def isBreak (c : Char) : Bool := c == '\n' || c == '\r'

def isEnd (c : Char) : Bool := c == '\x00'

def isBreakOrEnd (c : Char) : Bool := isBreak c || isEnd c

def isBlankOrEnd (c : Char) : Bool := isBlank c || isBreakOrEnd c

def isBracketMark (c : Char) : Bool :=
  c == ',' || c == '[' || c == ']' || c == '\x7b' || c == '\x7d'

/-- Letters, digits, underscores and dashes of ASCII. -/
def isWordChar (c : Char) : Bool := c.isAlphanum || c == '_' || c == '-'

def isAnchorChar (c : Char) : Bool := !isBlankOrEnd c && !isBracketMark c && c != '\ufeff'

def isUriChar (c : Char) : Bool :=
  c.isAlphanum || c == '-'
    || ['#', ';', '/', '?', ':', '@', '&', '=', '+', '$', ',', '_', '.', '!', '~', '*', '\'', '(', ')', '[',
        ']', '%'].contains c

def isTagChar (c : Char) : Bool := isUriChar c && !isBracketMark c && c != '!'

/-! ## Looking and moving -/

/-- The character `ahead` places from here. -/
def State.look (s : State) (ahead : Nat) : Char := s.rest.getD ahead '\x00'

def look (ahead : Nat) : Scan Char := return (← get).look ahead

def peek : Scan Char := look 0

/-- Past a blank, or past one character of a line break. -/
def passBlank : Scan Unit :=
  modify fun s => { s with rest := s.rest.drop 1, index := s.index + 1, column := s.column + 1 }

/-- Past a character of content. -/
def pass : Scan Unit := do
  passBlank
  modify fun s => { s with atLineStart := false }

def passNewline : Scan Unit :=
  modify fun s =>
    { s with
      rest := s.rest.drop 1
      index := s.index + 1
      column := 0
      line := s.line + 1
      atLineStart := true }

/-- Past a line break, if one stands here. -/
def passBreak : Scan Unit := do
  if (← peek) == '\r' && (← look 1) == '\n' then passBlank
  if isBreak (← peek) then passNewline

/-- How many steps a loop over the rest of the text may take. -/
def budget : Scan Nat := return (← get).rest.length + 1

/-- Moves with `step` while the next character satisfies `p`; returns the characters passed. -/
def passWhile (p : Char → Bool) (step : Scan Unit) : Scan (List Char) := do
  let passed := (← get).rest.takeWhile p
  for _ in passed do step
  return passed

/-- The rest of a comment. -/
def passComment : Scan Unit := do
  let _ ← passWhile (fun c => !isBreakOrEnd c) pass

/-- What stood between a token and the rest of its line. -/
structure Gap where
  tabs : Bool
  spaces : Bool

/-- Past blanks and a comment, which must follow a blank. -/
def passToLineEnd (allowTabs : Bool) : Scan Gap := do
  let blanks ← passWhile (fun c => c == ' ' || (allowTabs && c == '\t')) passBlank
  let gap : Gap := ⟨blanks.contains '\t', blanks.contains ' '⟩
  if (← peek) == '#' then
    if blanks.isEmpty then fail .badComment
    passComment
  return gap

/-- Whether three marks stand here, and nothing else up to a blank. -/
def State.atMarks (s : State) (mark : Char) : Bool :=
  s.look 0 == mark && s.look 1 == mark && s.look 2 == mark && isBlankOrEnd (s.look 3)

/-- Whether a document marker stands at the beginning of a line. -/
def State.atMarker (s : State) (mark : Char) : Bool := s.column == 0 && s.atMarks mark

def State.atDocumentMarker (s : State) : Bool := s.atMarker '-' || s.atMarker '.'

/-! ## Tokens, keys and indentation -/

def push (token : Token) (column : Nat) : Scan Unit :=
  modify fun s => { s with tokens := s.tokens.push (token, column) }

def pushHere (token : Token) : Scan Unit := do push token (← get).column

/-- Puts a token in front of those from a number on. -/
def insertAt (number : Nat) (token : Token) (column : Nat) : Scan Unit :=
  modify fun s =>
    { s with tokens := s.tokens.take number ++ #[(token, column)] ++ s.tokens.drop number }

def allowKey (allowed : Bool) : Scan Unit :=
  modify fun s => { s with keyAllowed := allowed }

/-- Remembers that a key may begin here. -/
def markKeyStart : Scan Unit := do
  let s ← get
  if s.keyAllowed then
    let required := s.depth == 0 && s.indent == s.column && (s.indents.head?.any Indent.endsBlock)
    let key : KeyStart := ⟨true, required, s.tokens.size, s.index, s.line, s.column⟩
    set { s with keyStarts := key :: s.keyStarts.drop 1 }

/-- What began at the latest place is no key. -/
def forgetKeyStart : Scan Unit := do
  let s ← get
  match s.keyStarts with
  | [] => return
  | key :: keys =>
    if key.possible && key.required then fail .keyWithoutValue
    set { s with keyStarts := { key with possible := false } :: keys }

/-- Outside brackets a key without a mark ends on its line and within 1024 characters. -/
def State.isStale (s : State) (key : KeyStart) : Bool :=
  s.depth == 0 && (key.line < s.line || key.index + 1024 < s.index)

def forgetStaleKeys : Scan Unit := do
  let s ← get
  if s.keyStarts.any fun key => key.possible && key.required && s.isStale key then fail .keyWithoutValue
  set
    { s with
      keyStarts := s.keyStarts.map fun key =>
        if s.isStale key then { key with possible := false } else key }

/-- The tokens in front of which no key can come any more. -/
def State.settled (s : State) : List Token :=
  let keys := s.keyStarts.filter fun key => key.possible && !s.isStale key
  let count := keys.foldl (fun count key => min count key.number) s.tokens.size
  ((s.tokens.take count).map Prod.fst).toList

/-- Opens a block at a column, unless one is open there. -/
def openBlock (column : Nat) (number : Option Nat) (token : Token) : Scan Unit := do
  if (← get).depth == 0 then
    modify fun s =>
      if s.indent ≤ (column : Int) then
        match s.indents with
        | indent :: indents => if indent.endsBlock then s else { s with indent := indent.column, indents }
        | [] => s
      else s
    let s ← get
    if s.indent < (column : Int) then
      set { s with indents := ⟨s.indent, true⟩ :: s.indents, indent := (column : Int) }
      match number with
      | some number => insertAt number token column
      | none => push token column

/-- What follows must be indented by one column more, without a block of its own. -/
def openColumn : Scan Unit :=
  modify fun s =>
    if s.depth == 0 && s.indents.head?.any Indent.endsBlock then
      { s with indents := ⟨s.indent, false⟩ :: s.indents, indent := s.indent + 1 }
    else s

/-- Closes the indentations beyond a column. -/
def closeBlocks (column : Int) : Scan Unit := do
  if (← get).depth == 0 then
    for _ in (← get).indents do
      let s ← get
      if column < s.indent then
        match s.indents with
        | [] => pure ()
        | indent :: indents =>
          set { s with indent := indent.column, indents }
          if indent.endsBlock then pushHere .blockEnd

/-- Closes the indentations that have no block of their own. -/
def closeColumns : Scan Unit := do
  for _ in (← get).indents do
    let s ← get
    match s.indents with
    | indent :: indents => if !indent.endsBlock then set { s with indent := indent.column, indents }
    | [] => pure ()

end PodLayers.Yaml
