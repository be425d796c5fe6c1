import PodLayers.Yaml.Token.Scalar

/-!
# Tokens of a text

`Token.ofText` gives the tokens of a text, up to its end or up to the first problem. A problem also takes
the tokens back in front of which a key may yet have come.
-/

namespace PodLayers.Yaml

/-- Past blanks, comments and line breaks in front of a token. -/
def passToToken : Nat → Scan Unit
  | 0 => return
  | steps + 1 => do
    let s ← get
    let c := s.look 0
    if c == '\t' && !s.indents.isEmpty && s.atLineStart && s.column < s.indent then
      let _ ← passToLineEnd true
      if !isBreakOrEnd (← peek) then fail .tabIndentation
      passToToken steps
    else if isBlank c then
      passBlank
      passToToken steps
    else if isBreak c then
      passBreak
      if (← get).depth == 0 then allowKey true
      passToToken steps
    else if c == '#' then
      passComment
      passToToken steps

def streamEnd : Scan Unit := do
  let s ← get
  if s.keyStarts.any fun key => key.required && key.possible then fail .keyWithoutValue
  modify fun s => { s with keyStarts := s.keyStarts.map fun key => { key with possible := false } }
  closeBlocks (-1)
  allowKey false
  modify fun s => { s with ended := true }
  pushHere .streamEnd

/-- The end of everything that belongs to the document so far. -/
def leaveDocument : Scan Unit := do
  closeBlocks (-1)
  forgetKeyStart
  allowKey false

def documentMarker (token : Token) : Scan Unit := do
  leaveDocument
  let column := (← get).column
  pass
  pass
  pass
  push token column

/-! ## Directives, anchors and tags -/

def tagHandle (inDirective : Bool) : Scan (List Char) := do
  if (← peek) != '!' then fail .badTag
  pass
  let word ← passWhile isWordChar pass
  if (← peek) == '!' then
    pass
    return '!' :: word ++ ['!']
  else if inDirective && !word.isEmpty then fail .badTag
  else return '!' :: word

/-- A byte written as a percent sign and two hexadecimal digits. -/
def percentByte : Scan Nat := do
  let s ← get
  match s.look 0, Json.hexValue? (s.look 1), Json.hexValue? (s.look 2) with
  | '%', some high, some low =>
    pass
    pass
    pass
    return high * 16 + low
  | _, _, _ => fail .badEscape

/-- How many bytes follow the first one of a character. -/
def bytesAfter? (first : Nat) : Option Nat :=
  if first < 0x80 then some 0
  else if first < 0xc0 then none
  else if first < 0xe0 then some 1
  else if first < 0xf0 then some 2
  else if first < 0xf8 then some 3
  else none

def moreBytes : Nat → Nat → Scan Nat
  | 0, code => return code
  | count + 1, code => do
    let byte ← percentByte
    if byte < 0x80 || 0xc0 ≤ byte then fail .badEscape
    moreBytes count (code * 256 + byte)

/-- The character of an escape in a tag; its bytes in a row are the code point. -/
def percentEscape : Scan Char := do
  let first ← percentByte
  match bytesAfter? first with
  | none => fail .badEscape
  | some count =>
    let code ← moreBytes count first
    if code < 0xd800 ∨ (0xdfff < code ∧ code ≤ 0x10ffff) then return Char.ofNat code
    else fail .badEscape

/-- The characters of a part of a tag while they satisfy `p`, with escapes read. -/
def tagText (p : Char → Bool) : Nat → Scan (List Char)
  | 0 => return []
  | steps + 1 => do
    let c ← peek
    if !p c then return []
    else if c == '%' then
      let char ← percentEscape
      return char :: (← tagText p steps)
    else
      pass
      return c :: (← tagText p steps)

/-- A number in a version. -/
def versionNumber : Scan Unit := do
  let digits ← passWhile Char.isDigit pass
  if digits.isEmpty || 9 < digits.length then fail .badDirective

def directive : Scan Unit := do
  leaveDocument
  pass
  let name ← passWhile isWordChar pass
  if name.isEmpty || !isBlankOrEnd (← peek) then fail .badDirective
  if name = ['Y', 'A', 'M', 'L'] then
    let _ ← passWhile isBlank passBlank
    versionNumber
    if (← peek) != '.' then fail .badDirective
    pass
    versionNumber
    pushHere .version
  else if name = ['T', 'A', 'G'] then
    let _ ← passWhile isBlank passBlank
    let handle ← tagHandle true
    let _ ← passWhile isBlank passBlank
    let c ← peek
    if c != '!' && !isTagChar c then fail .badDirective
    let uri ← tagText isUriChar (← budget)
    if !isBlankOrEnd (← peek) then fail .badDirective
    pushHere (.tagHandle (String.ofList handle) (String.ofList uri))
  else
    let _ ← passWhile (fun c => !isBreakOrEnd c) pass
    pushHere (.tagHandle "" "")
  let _ ← passToLineEnd true
  if !isBreakOrEnd (← peek) then fail .badDirective
  passBreak

/-- An anchor, or a reference to one. -/
def anchor (make : String → Token) : Scan Unit := do
  markKeyStart
  allowKey false
  let column := (← get).column
  pass
  let name ← passWhile isAnchorChar pass
  if name.isEmpty then fail .badAnchor
  push (make (String.ofList name)) column

def tag : Scan Unit := do
  markKeyStart
  allowKey false
  let column := (← get).column
  let (handle, suffix) ←
    if (← look 1) == '<' then do
      pass
      pass
      let uri ← tagText isUriChar (← budget)
      if (← peek) != '>' then fail .badTag
      pass
      pure ([], uri)
    else do
      let handle ← tagHandle false
      let named := 2 ≤ handle.length && handle.getLast? == some '!'
      let suffix ← tagText isTagChar (← budget)
      if named then
        if suffix.isEmpty then fail .badTag
        pure (handle, suffix)
      else
        let suffix := handle.drop 1 ++ suffix
        pure (if suffix.isEmpty then ([], ['!']) else (['!'], suffix))
  let s ← get
  if isBlankOrEnd (s.look 0) || (0 < s.depth && isBracketMark (s.look 0)) then
    push (.tag (String.ofList handle) (String.ofList suffix)) column
  else fail .badTag

/-! ## Brackets and indicators -/

/-- Closes the mapping without braces that is open in the innermost brackets, if any. -/
def endImplicitMapping : Scan Unit := do
  match (← get).implicitMappings with
  | true :: outer =>
    modify fun s => { s with inMapping := false, implicitMappings := false :: outer }
    pushHere .flowMappingEnd
  | _ => return

/-- How many brackets may be open at once. -/
def maxBrackets : Nat := 255

def openBracket (token : Token) : Scan Unit := do
  if maxBrackets ≤ (← get).depth then fail .deepNesting
  markKeyStart
  openColumn
  modify fun s => { s with keyStarts := .none :: s.keyStarts, depth := s.depth + 1 }
  allowKey true
  let column := (← get).column
  pass
  if token = .flowMapping then modify fun s => { s with inMapping := true }
  else modify fun s => { s with implicitMappings := false :: s.implicitMappings }
  let _ ← passToLineEnd true
  push token column

def closeBracket (token : Token) : Scan Unit := do
  forgetKeyStart
  modify fun s =>
    if s.depth == 0 then s
    else { s with depth := s.depth - 1, keyStarts := s.keyStarts.drop 1 }
  allowKey false
  if token = .flowSequenceEnd then
    endImplicitMapping
    modify fun s => { s with implicitMappings := s.implicitMappings.drop 1 }
  let column := (← get).column
  pass
  let _ ← passToLineEnd true
  modify fun s => if 0 < s.depth then { s with adjacent := s.index } else s
  push token column

def flowEntry : Scan Unit := do
  forgetKeyStart
  allowKey true
  endImplicitMapping
  let column := (← get).column
  pass
  let _ ← passToLineEnd true
  push .flowEntry column

def blockEntry : Scan Unit := do
  let s ← get
  if 0 < s.depth || !s.keyAllowed then fail .misplacedEntry
  match s.tokens.back? with
  | some (.anchor _, 0) | some (.tag _ _, 0) =>
    if s.column == 0 && -1 < s.indent then fail .badIndentation
  | _ => pure ()
  pass
  openBlock s.column none .blockSequence
  let gap ← passToLineEnd true
  if gap.tabs && (← peek) == '-' && isBlankOrEnd (← look 1) then fail .tabIndentation
  let _ ← passToLineEnd false
  let c ← peek
  if isBreak c || isBracketMark c then openColumn
  forgetKeyStart
  allowKey true
  pushHere .blockEntry

/-- Past the spaces, line breaks and comments behind the mark of a key; whether there is any space. -/
def passToKey : Nat → Scan Bool
  | 0 => return false
  | steps + 1 => do
    let c ← peek
    if c == ' ' then
      passBlank
      let _ ← passToKey steps
      return true
    else if isBreak c then
      passBreak
      if (← get).depth == 0 then allowKey true
      let _ ← passToKey steps
      return true
    else if c == '#' then
      passComment
      passToKey steps
    else return false

def explicitKey : Scan Unit := do
  let s ← get
  if s.depth == 0 then
    if !s.keyAllowed then fail .misplacedKey
    openBlock s.column none .blockMapping
  else modify fun s => { s with inMapping := true }
  forgetKeyStart
  allowKey (s.depth == 0)
  pass
  if !(← passToKey (← budget)) then fail .misplacedKey
  if (← peek) == '\t' then fail .tabIndentation
  push .key s.column

def valueMark : Scan Unit := do
  let s ← get
  let key := s.keyStarts.headD .none
  let implicit := !s.implicitMappings.isEmpty && !s.inMapping
  if implicit then modify fun s => { s with implicitMappings := true :: s.implicitMappings.drop 1 }
  pass
  if (← peek) == '\t' then
    let gap ← passToLineEnd true
    let c ← peek
    if !gap.spaces && (c == '-' || isWordChar c) then fail .tabIndentation
  if key.possible then
    insertAt key.number .key key.column
    if implicit then
      if key.line < s.line then fail .misplacedValue
      insertAt key.number .flowMapping key.column
    openBlock key.column (some key.number) .blockMapping
    openColumn
    modify fun s => { s with keyStarts := { key with possible := false } :: s.keyStarts.drop 1 }
    allowKey false
  else
    if implicit then pushHere .flowMapping
    if s.depth == 0 then
      if !s.keyAllowed then fail .misplacedValue
      openBlock s.column none .blockMapping
    openColumn
    allowKey (s.depth == 0)
  push .value s.column

/-- A colon inside brackets; without a blank it must follow its key at once, or a bracket is no value. -/
def flowValue : Scan Unit := do
  let s ← get
  let next := s.look 1
  if s.index != s.adjacent && (next == '[' || next == '\x7b') then fail .misplacedValue
  valueMark

/-! ## Scalars as tokens -/

def pushScalar (scan : Scan Token) (keysAfter : Bool) : Scan Unit := do
  markKeyStart
  allowKey keysAfter
  let column := (← get).column
  push (← scan) column

def pushQuoted (single : Bool) : Scan Unit := do
  markKeyStart
  allowKey false
  let column := (← get).column
  let token ← quotedScalar single
  passToToken (← budget)
  modify fun s => { s with adjacent := s.index }
  push token column

/-! ## The next token -/

def indicatorToken : Scan Unit := do
  let s ← get
  let c := s.look 0
  let next := s.look 1
  let inFlow := 0 < s.depth
  if c == '[' then openBracket .flowSequence
  else if c == '\x7b' then openBracket .flowMapping
  else if c == ']' then closeBracket .flowSequenceEnd
  else if c == '\x7d' then closeBracket .flowMappingEnd
  else if c == ',' then flowEntry
  else if c == '-' && isBlankOrEnd next then blockEntry
  else if c == '?' && isBlankOrEnd next then explicitKey
  else if c == ':' && isBlankOrEnd next then valueMark
  else if c == ':' && inFlow && (isBracketMark next || s.index == s.adjacent) then flowValue
  else if c == '*' then anchor .reference
  else if c == '&' then anchor .anchor
  else if c == '!' then tag
  else if c == '|' && !inFlow then pushScalar (blockScalar true) true
  else if c == '>' && !inFlow then pushScalar (blockScalar false) true
  else if c == '\'' then pushQuoted true
  else if c == '"' then pushQuoted false
  else if c == '%' || c == '@' || c.toNat == 0x60 then fail .reservedCharacter
  else pushScalar plainScalar false

/-- Scans on until at least one more token is there. -/
def advance : Scan Unit := do
  passToToken (← budget)
  forgetStaleKeys
  closeBlocks (← get).column
  let s ← get
  if isEnd (s.look 0) then streamEnd
  else if s.column == 0 && s.look 0 == '%' then directive
  else if s.atMarker '-' then documentMarker .documentStart
  else if s.atMarker '.' then
    documentMarker .documentEnd
    let _ ← passToLineEnd true
    if !isBreakOrEnd (← peek) then fail .trailingContent
  else if s.column < s.indent then fail .badIndentation
  else indicatorToken

/-- The tokens of a text when those of a state have been scanned, and the problem that ends them, if any. -/
def tokensFrom : Nat → State → List Token × Option Problem
  | 0, s => (s.settled, some .unexpectedToken)
  | fuel + 1, s =>
    if s.ended then (s.settled, none)
    else
      match advance.run s with
      | .ok ((), next) => tokensFrom fuel next
      | .error problem => (s.settled, some problem)

/-- The tokens of a text, and the problem that ends them, if any. -/
def Token.ofText (text : List Char) : List Token × Option Problem :=
  tokensFrom (text.length + 2) (State.start text)

end PodLayers.Yaml
