import PodLayers.Json.Text
import PodLayers.Number.Literal
import PodLayers.Toml.Node

/-!
# TOML strings, numbers and dates

The readers of strings take the characters of the text from the left and return what is left; the other
scalars are whole words, made of letters, digits and a few signs.
-/

namespace PodLayers.Toml

abbrev Scan (α : Type) := List Char → Option (α × List Char)

/-- Characters that may stand for themselves. -/
def isPlain (c : Char) : Bool := c == '\t' || (0x20 ≤ c.toNat && c.toNat ≠ 0x7f)

def isBlank (c : Char) : Bool := c == ' ' || c == '\t'

def skipBlanks (cs : List Char) : List Char := cs.dropWhile isBlank

def newline? : List Char → Option (List Char)
  | '\n' :: rest => some rest
  | '\r' :: '\n' :: rest => some rest
  | _ => none

/-- The character with a code point of a given number of hexadecimal digits. -/
def codePoint (digits : Nat) (cs : List Char) : Option (Char × List Char) :=
  let written := cs.take digits
  if written.length < digits then none
  else do
    let values ← written.mapM Json.hexValue?
    let n := values.foldl (fun n d => n * 16 + d) 0
    if n < 0xd800 ∨ (0xdfff < n ∧ n ≤ 0x10ffff) then return (Char.ofNat n, cs.drop digits) else none

def escape : Scan Char
  | 'b' :: rest => some ('\x08', rest)
  | 't' :: rest => some ('\t', rest)
  | 'n' :: rest => some ('\n', rest)
  | 'f' :: rest => some ('\x0c', rest)
  | 'r' :: rest => some ('\r', rest)
  | '"' :: rest => some ('"', rest)
  | '\\' :: rest => some ('\\', rest)
  | 'u' :: rest => codePoint 4 rest
  | 'U' :: rest => codePoint 8 rest
  | _ => none

def basicBody : Nat → Scan (List Char)
  | 0, _ => none
  | _, [] => none
  | steps + 1, c :: rest =>
    if c = '"' then some ([], rest)
    else if c = '\\' then do
      let (char, rest) ← escape rest
      let (more, rest) ← basicBody steps rest
      return (char :: more, rest)
    else if isPlain c then do
      let (more, rest) ← basicBody steps rest
      return (c :: more, rest)
    else none

/-- A string without escapes on one line, behind its quote. -/
def literalBody (cs : List Char) : Option (List Char × List Char) :=
  let inside := cs.takeWhile (· != '\'')
  match cs.dropWhile (· != '\'') with
  | _ :: rest => if inside.all isPlain then some (inside, rest) else none
  | [] => none

/-- Quotes at the end of a string of several lines: up to two of them belong to the string. -/
def closing (quote : Char) (cs : List Char) : Option (List Char × List Char) :=
  let quotes := cs.takeWhile (· == quote)
  if quotes.length < 3 then none
  else
    let kept := min (quotes.length - 3) 2
    some (List.replicate kept quote, cs.drop (kept + 3))

def skipGap : List Char → List Char
  | '\r' :: '\n' :: rest => skipGap rest
  | c :: rest => if isBlank c || c == '\n' then skipGap rest else c :: rest
  | [] => []

/-- Blanks and line breaks after a backslash at the end of a line; the line must end. -/
def continuation (cs : List Char) : Option (List Char) := (newline? (skipBlanks cs)).map skipGap

/-- A string of several lines; escapes count only in one with double quotes. -/
def multiLineBody (quote : Char) : Nat → Scan (List Char)
  | 0, _ => none
  | steps + 1, cs =>
    match closing quote cs with
    | some result => some result
    | none =>
      match cs with
      | [] => none
      | '\\' :: rest =>
        if quote = '"' then
          match continuation rest with
          | some rest => multiLineBody quote steps rest
          | none => do
            let (char, rest) ← escape rest
            let (more, rest) ← multiLineBody quote steps rest
            return (char :: more, rest)
        else do
          let (more, rest) ← multiLineBody quote steps rest
          return ('\\' :: more, rest)
      | c :: rest =>
        match newline? (c :: rest) with
        | some rest => do
          let (more, rest) ← multiLineBody quote steps rest
          return ('\n' :: more, rest)
        | none =>
          if isPlain c then do
            let (more, rest) ← multiLineBody quote steps rest
            return (c :: more, rest)
          else none

/-- The body of a string of several lines, without a line break at its start. -/
def multiLine (quote : Char) (cs : List Char) : Option (List Char × List Char) :=
  let cs := (newline? cs).getD cs
  multiLineBody quote (cs.length + 1) cs

/-- A string on one line, as keys use it. -/
def lineString : Scan String
  | '"' :: rest => (basicBody (rest.length + 1) rest).map fun (cs, rest) => (String.ofList cs, rest)
  | '\'' :: rest => (literalBody rest).map fun (cs, rest) => (String.ofList cs, rest)
  | _ => none

def string : Scan String
  | '"' :: '"' :: '"' :: rest => (multiLine '"' rest).map fun (cs, rest) => (String.ofList cs, rest)
  | '\'' :: '\'' :: '\'' :: rest => (multiLine '\'' rest).map fun (cs, rest) => (String.ofList cs, rest)
  | cs => lineString cs

/-! ## Words -/

/-- Digits in which single underscores may stand between two of them. -/
def separated? (isDigit : Char → Bool) (cs : List Char) : Option (List Char) :=
  let rec go : Bool → List Char → Bool
    | after, [] => after
    | after, c :: rest =>
      if isDigit c then go true rest else c == '_' && after && go false rest
  if go false cs then some (cs.filter isDigit) else none

def isHexDigit (c : Char) : Bool := (Json.hexValue? c).isSome

def hexDigitValue (c : Char) : Nat := (Json.hexValue? c).getD 0

def inRange (i : Int) : Option Node :=
  if Literal.minInteger ≤ i ∧ i < -Literal.minInteger then some (.integer i) else none

/-- Decimal digits without a superfluous zero in front. -/
def decimalDigits? (cs : List Char) : Option (List Char) := do
  let digits ← separated? Char.isDigit cs
  if 1 < digits.length ∧ digits.head? = some '0' then none else return digits

def integer? : List Char → Option Node
  | '0' :: 'x' :: rest => do
    inRange (Literal.natOf 16 hexDigitValue (← separated? isHexDigit rest))
  | '0' :: 'o' :: rest => do
    inRange (Literal.natOf 8 Literal.digitValue (← separated? (fun c => '0' ≤ c && c ≤ '7') rest))
  | '0' :: 'b' :: rest => do
    inRange (Literal.natOf 2 Literal.digitValue (← separated? (fun c => c == '0' || c == '1') rest))
  | cs => do
    let (negative, body) := Literal.sign cs
    let n := Literal.decimal (← decimalDigits? body)
    inRange (if negative then -n else n)

def exponent? (cs : List Char) : Option (List Char) := do
  let (negative, body) := Literal.sign cs
  let digits ← separated? Char.isDigit body
  return (if negative then '-' :: digits else digits)

def float? (cs : List Char) : Option Node := do
  let (negative, body) := Literal.sign cs
  if body = ['i', 'n', 'f'] then return .float (.infinite negative)
  else if body = ['n', 'a', 'n'] then return .float .nan
  else
    let isMark := fun c => c == 'e' || c == 'E'
    let mantissa := body.takeWhile fun c => !isMark c
    let power ← match body.dropWhile fun c => !isMark c with
      | [] => some []
      | _ :: digits => (exponent? digits).map ('e' :: ·)
    let whole ← decimalDigits? (mantissa.takeWhile (· != '.'))
    let fraction ← match mantissa.dropWhile (· != '.') with
      | [] => some []
      | _ :: digits => (separated? Char.isDigit digits).map ('.' :: ·)
    if power.isEmpty && fraction.isEmpty then none
    else
      match Literal.unsigned? negative (whole ++ fraction ++ power) with
      | some (.infinite false) => none
      | some x => return .float x
      | none => none

/-! ## Dates and times -/

/-- A number of exactly `count` digits within bounds, followed by a mark. -/
def field? (count low high : Nat) (cs : List Char) : Option (Nat × List Char) :=
  let digits := cs.take count
  let n := Literal.decimal digits
  if digits.length = count ∧ digits.all Char.isDigit ∧ low ≤ n ∧ n ≤ high then some (n, cs.drop count)
  else none

def mark? (mark : Char) : List Char → Option (List Char)
  | c :: rest => if c = mark then some rest else none
  | [] => none

def daysIn (year month : Nat) : Nat :=
  if month = 2 then
    if year % 4 = 0 ∧ (year % 100 ≠ 0 ∨ year % 400 = 0) then 29 else 28
  else if month = 4 ∨ month = 6 ∨ month = 9 ∨ month = 11 then 30
  else 31

def date? (cs : List Char) : Option (List Char × List Char) := do
  let (year, rest) ← field? 4 0 9999 cs
  let (month, rest) ← field? 2 1 12 (← mark? '-' rest)
  let (_, rest) ← field? 2 1 (daysIn year month) (← mark? '-' rest)
  return (cs.take 10, rest)

/-- A fraction of a second in at most nine digits, without zeros at its end. -/
def fraction (digits : List Char) : List Char :=
  let kept := ((digits.take 9).reverse.dropWhile (· == '0')).reverse
  if kept.isEmpty then [] else '.' :: kept

def time? (cs : List Char) : Option (List Char × List Char) := do
  let (_, rest) ← field? 2 0 23 cs
  let (_, rest) ← field? 2 0 59 (← mark? ':' rest)
  let (_, rest) ← field? 2 0 60 (← mark? ':' rest)
  match rest with
  | '.' :: rest =>
    let digits := rest.takeWhile Char.isDigit
    if digits.isEmpty then none else return (cs.take 8 ++ fraction digits, rest.dropWhile Char.isDigit)
  | rest => return (cs.take 8, rest)

/-- An offset from universal time; returns its text. An offset of zero has a plus. -/
def offset? : List Char → Option (List Char × List Char)
  | 'Z' :: rest => some (['Z'], rest)
  | 'z' :: rest => some (['Z'], rest)
  | sign :: rest => do
    if sign = '+' ∨ sign = '-' then
      let (hours, after) ← field? 2 0 23 rest
      let (minutes, after) ← field? 2 0 59 (← mark? ':' after)
      return ((if hours = 0 ∧ minutes = 0 then '+' else sign) :: rest.take 5, after)
    else none
  | [] => some ([], [])

def moment? (cs : List Char) : Option Node :=
  match date? cs with
  | some (date, []) => some (.moment (String.ofList date))
  | some (date, mark :: rest) => do
    if mark = 'T' ∨ mark = 't' ∨ mark = ' ' then
      let (time, rest) ← time? rest
      let (offset, rest) ← offset? rest
      if rest.isEmpty then return .moment (String.ofList (date ++ 'T' :: time ++ offset)) else none
    else none
  | none => do
    let (time, rest) ← time? cs
    if rest.isEmpty then return .moment (String.ofList time) else none

def isWordChar (c : Char) : Bool :=
  c.isAlphanum || c == '_' || c == '+' || c == '-' || c == '.' || c == ':'

/-- The characters of a word. A date may be followed by one blank and a time. -/
def word (cs : List Char) : List Char × List Char :=
  let first := cs.takeWhile isWordChar
  let rest := cs.dropWhile isWordChar
  match date? first, rest with
  | some (_, []), ' ' :: d :: more =>
    if d.isDigit then (first ++ ' ' :: (d :: more).takeWhile isWordChar, (d :: more).dropWhile isWordChar)
    else (first, rest)
  | _, _ => (first, rest)

def ofWord (cs : List Char) : Option Node :=
  if cs = ['t', 'r', 'u', 'e'] then some (.bool true)
  else if cs = ['f', 'a', 'l', 's', 'e'] then some (.bool false)
  else (integer? cs).or ((float? cs).or (moment? cs))

end PodLayers.Toml
