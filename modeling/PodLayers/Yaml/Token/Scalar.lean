import PodLayers.Json.Text
import PodLayers.Text.Characters
import PodLayers.Yaml.Token.Source

/-!
# YAML scalars

Plain and quoted scalars fold their line breaks: one break is a blank, and of several the first is
dropped. Block scalars keep their lines or fold them, and chomp the breaks at their end.
-/

namespace PodLayers.Yaml

/-- The text between the words of a folded scalar. -/
structure Fold where
  text : List Char
  blanks : List Char
  firstBreak : Bool
  moreBreaks : List Char

/-! ## Plain scalars -/

/-- Whether the next character belongs to a plain scalar, blanks apart. -/
def State.inPlain (s : State) : Bool :=
  let c := s.look 0
  let next := s.look 1
  let inFlow := 0 < s.depth
  !isBlankOrEnd c
    && !(c == ':' && (isBlankOrEnd next || (inFlow && isBracketMark next)))
    && !(inFlow && isBracketMark c)

def plainWord : Nat → Scan (List Char)
  | 0 => return []
  | steps + 1 => do
    if (← get).inPlain then
      let c ← peek
      pass
      return c :: (← plainWord steps)
    else return []

/-- What joins two words: the blanks between them, or what is left of the line breaks. -/
def Fold.joint (fold : Fold) (lineStart : Bool) : List Char :=
  if lineStart then
    if !fold.firstBreak then fold.moreBreaks
    else if fold.moreBreaks.isEmpty then [' ']
    else fold.moreBreaks
  else fold.blanks

def plainGap (indent : Int) : Nat → Fold → Scan Fold
  | 0, fold => return fold
  | steps + 1, fold => do
    let c ← peek
    if isBlank c then
      let s ← get
      if !s.atLineStart then
        passBlank
        plainGap indent steps { fold with blanks := fold.blanks ++ [c] }
      else if s.column < indent && c == '\t' then
        let _ ← passToLineEnd true
        if !isBreakOrEnd (← peek) then fail .tabIndentation
        plainGap indent steps fold
      else
        passBlank
        plainGap indent steps fold
    else if isBreak c then
      let first := !(← get).atLineStart
      passBreak
      if first then plainGap indent steps { fold with blanks := [], firstBreak := true }
      else plainGap indent steps { fold with moreBreaks := fold.moreBreaks ++ ['\n'] }
    else return fold

def plainWords (indent : Int) : Nat → Fold → Scan (List Char)
  | 0, fold => return fold.text
  | steps + 1, fold => do
    let s ← get
    if s.atLineStart && (s.atMarks '-' || s.atMarks '.') then return fold.text
    if s.look 0 == '#' then return fold.text
    if 0 < s.depth && s.look 0 == '-' && isBracketMark (s.look 1) then fail .badScalar
    let fold ←
      if s.inPlain then do
        let joint := fold.joint s.atLineStart
        modify fun s => { s with atLineStart := false }
        let word ← plainWord (← budget)
        pure (Fold.mk (fold.text ++ joint ++ word) [] false [])
      else pure fold
    let c ← peek
    if !(isBlank c || isBreak c) then return fold.text
    let fold ← plainGap indent (← budget) fold
    let s ← get
    if s.depth == 0 && s.column < indent then return fold.text
    plainWords indent steps fold

def plainScalar : Scan Token := do
  closeColumns
  let s ← get
  let indent := s.indent + 1
  if 0 < s.depth && s.column < indent then fail .badIndentation
  let text ← plainWords indent (← budget) ⟨[], [], false, []⟩
  if (← get).atLineStart then allowKey true
  if text.isEmpty then fail .badScalar
  return .scalar .plain (String.ofList text)

/-! ## Quoted scalars -/

/-- The character of an escape of a number of hexadecimal digits, behind its letter. -/
def hexEscape (digits : Nat) : Scan Char := do
  let written := (← get).rest.take digits
  if written.length < digits then fail .badEscape
  match written.mapM Json.hexValue? with
  | none => fail .badEscape
  | some values =>
    let n := values.foldl (fun n d => n * 16 + d) 0
    if n < 0xd800 ∨ (0xdfff < n ∧ n ≤ 0x10ffff) then
      for _ in written do pass
      return Char.ofNat n
    else fail .badEscape

def shortEscapes : List (Char × Char) :=
  [('0', '\x00'), ('a', '\x07'), ('b', '\x08'), ('t', '\t'), ('\t', '\t'), ('n', '\n'), ('v', '\x0b'),
    ('f', '\x0c'), ('r', '\r'), ('e', '\x1b'), (' ', ' '), ('"', '"'), ('/', '/'), ('\\', '\\'),
    ('N', '\u0085'), ('_', '\u00a0'), ('L', '\u2028'), ('P', '\u2029')]

def escape : Scan Char := do
  let c ← look 1
  pass
  pass
  match shortEscapes.lookup c with
  | some char => return char
  | none =>
    if c == 'x' then hexEscape 2
    else if c == 'u' then hexEscape 4
    else if c == 'U' then hexEscape 8
    else fail .badEscape

/-- The characters of a quoted scalar up to a blank, a break or the quote; the flag tells of an escaped
line break at their end. -/
def quotedWord (single : Bool) : Nat → Scan (List Char × Bool)
  | 0 => return ([], false)
  | steps + 1 => do
    let c ← peek
    let next ← look 1
    if isBlankOrEnd c then return ([], false)
    else if single && c == '\'' then
      if next == '\'' then
        pass
        pass
        let (more, escaped) ← quotedWord single steps
        return ('\'' :: more, escaped)
      else return ([], false)
    else if !single && c == '"' then return ([], false)
    else if !single && c == '\\' && isBreak next then
      pass
      passBreak
      return ([], true)
    else if !single && c == '\\' then
      let char ← escape
      let (more, escaped) ← quotedWord single steps
      return (char :: more, escaped)
    else
      pass
      let (more, escaped) ← quotedWord single steps
      return (c :: more, escaped)

/-- The blanks and line breaks inside a quoted scalar, and whether a line has been left. -/
def quotedGap : Nat → Bool → Fold → Scan (Bool × Fold)
  | 0, left, fold => return (left, fold)
  | steps + 1, left, fold => do
    let c ← peek
    if isBlank c then
      if left then
        let s ← get
        if c == '\t' && s.column < s.indent then fail .tabIndentation
        passBlank
        quotedGap steps left fold
      else
        passBlank
        quotedGap steps left { fold with blanks := fold.blanks ++ [c] }
    else if isBreak c then
      passBreak
      if left then quotedGap steps left { fold with moreBreaks := fold.moreBreaks ++ ['\n'] }
      else quotedGap steps true { fold with blanks := [], firstBreak := true }
    else return (left, fold)

def quotedBody (single : Bool) : Nat → List Char → Scan (List Char)
  | 0, text => return text
  | steps + 1, text => do
    let s ← get
    if s.atDocumentMarker || isEnd (s.look 0) then fail .unclosedScalar
    if s.column < s.indent then fail .badIndentation
    let (word, escaped) ← quotedWord single (← budget)
    let text := text ++ word
    let c ← peek
    if c == (if single then '\'' else '"') then return text
    let (left, fold) ← quotedGap (← budget) escaped ⟨[], [], false, []⟩
    quotedBody single steps (text ++ fold.joint left)

def quotedScalar (single : Bool) : Scan Token := do
  let startLine := (← get).line
  pass
  let text ← quotedBody single (← budget) []
  pass
  let _ ← passToLineEnd true
  let s ← get
  let c := s.look 0
  let allowed :=
    isBreakOrEnd c
      || (0 < s.depth && (c == ',' || c == '\x7d' || c == ']' || c == ':'))
      || (s.depth == 0 && c == ':' && startLine == s.line)
  if !allowed then fail .trailingContent
  return .scalar .quoted (String.ofList text)

/-! ## Block scalars -/

inductive Chomping
  | clip
  | strip
  | keep
deriving DecidableEq

/-- Past the blanks of an indentation and past empty lines; returns the breaks of the latter. -/
def blockIndent (indent : Nat) : Nat → Scan (List Char)
  | 0 => return []
  | steps + 1 => do
    let room := indent - (← get).column
    let blanks := ((← get).rest.takeWhile (· == ' ')).take room
    for _ in blanks do passBlank
    if isBreak (← peek) then
      passBreak
      return '\n' :: (← blockIndent indent steps)
    else return []

/-- Past all blanks and empty lines in front of the first line; returns the breaks and the widest
indentation seen. -/
def blockFirstIndent : Nat → Nat → Scan (List Char × Nat)
  | 0, widest => return ([], widest)
  | steps + 1, widest => do
    let _ ← passWhile (· == ' ') passBlank
    let widest := max widest (← get).column
    if isBreak (← peek) then
      passBreak
      let (breaks, widest) ← blockFirstIndent steps widest
      return ('\n' :: breaks, widest)
    else return ([], widest)

/-- What a block scalar has collected: its text, the break behind the last line and the empty lines
behind that. -/
structure Lines where
  text : List Char
  lastBreak : List Char
  breaks : List Char
  /-- Whether the last line began with a blank. -/
  indented : Bool

def blockLines (literal : Bool) (indent : Nat) : Nat → Lines → Scan Lines
  | 0, lines => return lines
  | steps + 1, lines => do
    let s ← get
    if s.column != indent || isEnd (s.look 0) || (indent == 0 && s.atMarker '.') then return lines
    let indented := isBlank (s.look 0)
    let joint :=
      if !literal && !lines.lastBreak.isEmpty && !lines.indented && !indented then
        if lines.breaks.isEmpty then [' '] else lines.breaks
      else lines.lastBreak ++ lines.breaks
    let content ← passWhile (fun c => !isBreakOrEnd c) pass
    let text := lines.text ++ joint ++ content
    if isEnd (← peek) then return ⟨text, [], [], indented⟩
    passBreak
    let breaks ← blockIndent indent (← budget)
    blockLines literal indent steps ⟨text, ['\n'], breaks, indented⟩

def indicator : Scan Nat := do
  let c ← peek
  if c.isDigit then
    if c == '0' then fail .badScalar
    pass
    return c.toNat - '0'.toNat
  else return 0

def chomping : Scan Chomping := do
  let c ← peek
  if c == '+' then
    pass
    return .keep
  else if c == '-' then
    pass
    return .strip
  else return .clip

/-- Chomping and indentation indicators in either order. -/
def blockHeader : Scan (Chomping × Nat) := do
  let first ← chomping
  let increment ← indicator
  if first == .clip && increment != 0 then return (← chomping, increment)
  else return (first, increment)

def blockScalar (literal : Bool) : Scan Token := do
  let startLine := (← get).line
  pass
  closeColumns
  let (chomp, increment) ← blockHeader
  let _ ← passToLineEnd true
  if !isBreakOrEnd (← peek) then fail .badScalar
  let headerBreak := if isBreak (← peek) then ['\n'] else []
  passBreak
  if (← peek) == '\t' then fail .tabIndentation
  let outer := (← get).indent
  let given := if increment = 0 then 0 else if 0 ≤ outer then (outer + increment).toNat else increment
  let (breaks, indent) ←
    if given = 0 then do
      let (breaks, widest) ← blockFirstIndent (← budget) 0
      let indent := max widest (outer + 1).toNat
      pure (breaks, if 0 < outer then max indent 1 else indent)
    else do
      let breaks ← blockIndent given (← budget)
      pure (breaks, given)
  let s ← get
  if isEnd (s.look 0) then
    let text :=
      if chomp == .strip || s.line == startLine then []
      else if chomp == .clip then headerBreak
      else if breaks.isEmpty then headerBreak
      else breaks
    return .scalar .block (String.ofList text)
  if s.column < indent && outer < s.column then fail .badIndentation
  let lines ← blockLines literal indent (← budget) ⟨[], [], breaks, false⟩
  let s ← get
  let ending :=
    if chomp == .strip then []
    else lines.lastBreak ++ (if isEnd (s.look 0) && max indent 1 ≤ s.column then ['\n'] else [])
  let kept := if chomp == .keep then lines.breaks else []
  let text := lines.text ++ ending ++ kept
  let unindented := !literal && indent == 0 && !text.all Text.isBlank
  return .scalar (if unindented then .unindented else .block) (String.ofList text)

end PodLayers.Yaml
