import PodLayers.Settings.Fault
import PodLayers.Text.Characters
import PodLayers.Toml.Scalar

/-!
# Settings in the environment

A variable whose name begins with the stem, in any case, sets the key that the rest of the name spells:
two underscores separate the parts, and neither case nor white space around it counts. Its value is read
by a small grammar; a value outside the grammar is a text as it stands.
-/

namespace PodLayers.Environment

open Setting

abbrev Scan (α : Type) := List Char → Option (α × List Char)

def skipBlanks (cs : List Char) : List Char := cs.dropWhile Text.isAsciiBlank

def past? (expected cs : List Char) : Option (List Char) :=
  if expected.isPrefixOf cs then some (cs.drop expected.length) else none

/-- The characters in front of the next quote that no backslash precedes. -/
def untilQuote : List Char → Option (List Char × List Char)
  | [] => none
  | '"' :: rest => some ([], rest)
  | '\\' :: c :: rest => (untilQuote rest).map fun (inside, rest) => ('\\' :: c :: inside, rest)
  | c :: rest => (untilQuote rest).map fun (inside, rest) => (c :: inside, rest)

def unescape : Nat → List Char → Option (List Char)
  | 0, _ => none
  | _, [] => some []
  | steps + 1, '\\' :: rest => do
    let (c, rest) ← Toml.escape rest
    return c :: (← unescape steps rest)
  | steps + 1, c :: rest =>
    if Toml.isPlain c then (unescape steps rest).map (c :: ·) else none

/-- The characters in front that have room in a number of bytes. -/
def withinBytes : Nat → List Char → List Char
  | _, [] => []
  | room, c :: rest => if c.utf8Size ≤ room then c :: withinBytes (room - c.utf8Size) rest else []

/-- A text between quotes, behind the first of them. What stands in front of the first escape loses
everything beyond as many bytes as it has characters. -/
def string (cs : List Char) : Option (String × List Char) := do
  let (inside, rest) ← untilQuote cs
  let text ← unescape (inside.length + 1) inside
  let front := inside.takeWhile (· != '\\')
  let kept := if front.length < inside.length then withinBytes front.length front else front
  return (String.ofList (kept ++ text.drop front.length), rest)

def isKeyChar (c : Char) : Bool := c.isAlphanum || c == '_' || c == '-'

def key : Scan String
  | '"' :: rest => string rest
  | cs =>
    let bare := cs.takeWhile isKeyChar
    if bare.isEmpty then none else some (String.ofList bare, cs.dropWhile isKeyChar)

def isSeparator (c : Char) : Bool := c == '\x7b' || c == '\x7d' || c == '[' || c == ']' || c == ','

/-- A natural number of 64 bits, with an optional plus. -/
def natural? (cs : List Char) : Option Nat :=
  let digits := (past? ['+'] cs).getD cs
  let n := Literal.decimal digits
  if digits.isEmpty || !digits.all Char.isDigit || Literal.maxNatural < n then none else some n

/-- A negative number of 64 bits, or zero with a minus. -/
def negative? (cs : List Char) : Option Int := do
  let digits ← past? ['-'] cs
  let i : Int := -(Literal.decimal digits : Int)
  if digits.isEmpty || !digits.all Char.isDigit || i < Literal.minInteger then none else return i

def bare (cs : List Char) : Setting :=
  let fraction := if cs.contains '.' then Literal.float? cs else none
  match fraction, natural? cs, negative? cs with
  | some x, _, _ => .fraction .environment x
  | none, some n, _ => .natural .environment n
  | none, none, some i => .signed .environment i
  | none, none, none => .text .environment (String.ofList cs)

def items (value : Scan Setting) : Nat → Scan (List Setting)
  | 0, _ => none
  | steps + 1, cs =>
    match past? [']'] cs with
    | some rest => some ([], rest)
    | none => do
      let (item, rest) ← value cs
      match past? [','] rest with
      | some rest =>
        let (more, rest) ← items value steps rest
        return (item :: more, rest)
      | none => return ([item], ← past? [']'] rest)

def entries (value : Scan Setting) : Nat → Scan (List (String × Setting))
  | 0, _ => none
  | steps + 1, cs =>
    match past? ['\x7d'] cs with
    | some rest => some ([], rest)
    | none => do
      let (name, rest) ← key (skipBlanks cs)
      let (item, rest) ← value (← past? ['='] (skipBlanks rest))
      match past? [','] (skipBlanks rest) with
      | some rest =>
        let (more, rest) ← entries value steps rest
        return ((name, item) :: more, rest)
      | none => return ([(name, item)], ← past? ['\x7d'] (skipBlanks rest))

/-- A value, with the blanks around it. Brackets nest at most as deep as the text is long. -/
def value (depth : Nat) (cs : List Char) : Option (Setting × List Char) := do
  let (setting, rest) ← scan depth (skipBlanks cs)
  return (setting, skipBlanks rest)
where
  scan : Nat → Scan Setting
    | depth, cs =>
      match past? ['t', 'r', 'u', 'e'] cs, past? ['f', 'a', 'l', 's', 'e'] cs with
      | some rest, _ => some (.bool .environment true, rest)
      | none, some rest => some (.bool .environment false, rest)
      | none, none =>
        match cs with
        | '\x7b' :: rest =>
          match depth with
          | 0 => none
          | depth + 1 =>
            (entries (inner (scan depth)) (rest.length + 1) rest).map fun (es, rest) =>
              (.table .environment (Entries.ofList es), rest)
        | '[' :: rest =>
          match depth with
          | 0 => none
          | depth + 1 =>
            (items (inner (scan depth)) (rest.length + 1) rest).map fun (xs, rest) =>
              (.list .environment xs, rest)
        | '"' :: rest => (string rest).map fun (s, rest) => (.text .environment s, rest)
        | '\'' :: rest =>
          match rest with
          | c :: '\'' :: rest => some (.char .environment c, rest)
          | _ => none
        | cs =>
          some (bare (Text.trim (cs.takeWhile fun c => !isSeparator c)), cs.dropWhile fun c => !isSeparator c)
  /-- A value inside brackets, with the blanks around it. -/
  inner (scan : Scan Setting) (cs : List Char) : Option (Setting × List Char) := do
    let (setting, rest) ← scan (skipBlanks cs)
    return (setting, skipBlanks rest)

def setting (written : String) : Setting :=
  match value written.length written.toList with
  | some (setting, []) => setting
  | _ => .text .environment written

/-! ## Names of variables -/

/-- Pairs of underscores become points, from the left. -/
def pointed : List Char → List Char
  | '_' :: '_' :: rest => '.' :: pointed rest
  | c :: rest => c :: pointed rest
  | [] => []

def parts : List Char → List (List Char)
  | [] => [[]]
  | c :: rest =>
    match parts rest with
    | [] => [[c]]
    | part :: more => if c = '.' then [] :: part :: more else (c :: part) :: more

def path? (name : String) : Option (List String) := do
  let stem := SettingsFault.variableStem.toList.map Char.toLower
  let rest ← past? stem ((Text.trim name.toList).map Char.toLower)
  let path := parts (pointed (Text.trim rest))
  if path.any List.isEmpty then none else return path.map String.ofList

/-- The settings of all variables together; later variables win. -/
def read (environment : List (String × String)) : Setting :=
  environment.foldl
    (fun settings (name, written) =>
      match path? name with
      | some path => settings.merge (nest .environment (setting written) path)
      | none => settings)
    (.table .environment [])

end PodLayers.Environment
