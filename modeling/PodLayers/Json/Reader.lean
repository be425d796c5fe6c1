import PodLayers.Json.Number
import PodLayers.Json.Text
import PodLayers.Value.Printer

/-!
# Reading JSON text

`Json.read` reads a whole text as one value. Repeated keys keep the last value. The nesting of brackets is
bounded, and the bound is the recursion of the reader; the loops over the items of one bracket are bounded
by the length of the text, which every item shortens.
-/

namespace PodLayers.Json

def isSpace (c : Char) : Bool := c == ' ' || c == '\n' || c == '\t' || c == '\r'

def skipSpace (c : Cursor) : Cursor := c.skipWhile isSpace

/-- The rest of a word whose first letter has been passed. -/
def word (expected : List Char) (c : Cursor) : Except Fault Cursor :=
  match expected with
  | [] => .ok c
  | e :: more =>
    match c.rest with
    | [] => failHere c .endInValue
    | head :: _ =>
      if head = e then word more c.next else failNext c .brokenWord

/-- The separator in front of the next item of a list; `none` behind its bracket. -/
def listItem (first : Bool) (c : Cursor) : Except Fault (Option Cursor × Cursor) :=
  let c := skipSpace c
  match c.rest with
  | [] => failNext c .endInList
  | ']' :: _ => .ok (none, c.next)
  | head :: _ =>
    if first then .ok (some c, c)
    else if head = ',' then
      let c := skipSpace c.next
      match c.rest with
      | [] => failNext c .endInValue
      | ']' :: _ => failNext c .trailingComma
      | _ => .ok (some c, c)
    else failNext c .expectedCommaOrBracket

/-- The opening quote of the next key of an object; `none` behind its brace. -/
def objectKey (first : Bool) (c : Cursor) : Except Fault (Option Cursor × Cursor) :=
  let c := skipSpace c
  match c.rest with
  | [] => failNext c .endInObject
  | '\x7d' :: _ => .ok (none, c.next)
  | head :: _ =>
    if first then
      if head = '"' then .ok (some c.next, c) else failNext c .keyNotString
    else if head = ',' then
      let c := skipSpace c.next
      match c.rest with
      | [] => failNext c .endInValue
      | '"' :: _ => .ok (some c.next, c)
      | '\x7d' :: _ => failNext c .trailingComma
      | _ => failNext c .keyNotString
    else failNext c .expectedCommaOrBrace

def colon (c : Cursor) : Except Fault Cursor :=
  let c := skipSpace c
  match c.rest with
  | [] => failNext c .endInObject
  | ':' :: _ => .ok c.next
  | _ => failNext c .expectedColon

def listItems (item : Cursor → Except Fault (Value × Cursor)) :
    Nat → Bool → Cursor → Except Fault (List Value × Cursor)
  | 0, _, c => failNext c .endInList
  | steps + 1, first, c => do
    match ← listItem first c with
    | (none, after) => return ([], after)
    | (some start, _) =>
      let (v, c) ← item start
      let (vs, c) ← listItems item steps false c
      return (v :: vs, c)

def objectEntries (item : Cursor → Except Fault (Value × Cursor)) :
    Nat → Bool → Cursor → Except Fault (List (String × Value) × Cursor)
  | 0, _, c => failNext c .endInObject
  | steps + 1, first, c => do
    match ← objectKey first c with
    | (none, after) => return ([], after)
    | (some start, _) =>
      let (key, c) ← string start
      let (v, c) ← item (← colon c)
      let (es, c) ← objectEntries item steps false c
      return ((key, v) :: es, c)

/-- A value that may hold `depth` brackets inside each other. -/
def value (depth : Nat) (c : Cursor) : Except Fault (Value × Cursor) :=
  let c := skipSpace c
  match c.rest with
  | [] => failNext c .endInValue
  | 'n' :: _ => do return (.null, ← word ['u', 'l', 'l'] c.next)
  | 't' :: _ => do return (.bool true, ← word ['r', 'u', 'e'] c.next)
  | 'f' :: _ => do return (.bool false, ← word ['a', 'l', 's', 'e'] c.next)
  | '"' :: _ => do
    let (s, c) ← string c.next
    return (.text s, c)
  | '-' :: _ => do
    let (n, c) ← number true c.next
    return (.number n, c)
  | '[' :: _ =>
    match depth with
    | 0 => failNext c .tooDeep
    | depth + 1 => do
      let (items, c) ← listItems (value depth) c.rest.length true c.next
      return (.list items, c)
  | '\x7b' :: _ =>
    match depth with
    | 0 => failNext c .tooDeep
    | depth + 1 => do
      let (entries, c) ← objectEntries (value depth) c.rest.length true c.next
      return (.mapping (Entries.ofList entries), c)
  | head :: _ =>
    if head.isDigit then do
      let (n, c) ← number false c
      return (.number n, c)
    else failNext c .expectedValue

def maxDepth : Nat := 127

def finish {α : Type} (result : α) (c : Cursor) : Except Fault α :=
  let c := skipSpace c
  if c.rest.isEmpty then .ok result else failNext c .trailingCharacters

def read (text : String) : Except Fault Value := do
  let (v, c) ← value maxDepth (Cursor.start text)
  finish v c

/-- The port number written by a text. A list or mapping is refused at its opening bracket, any other
misfit behind it. -/
def readPort (text : String) : Except Fault Nat := do
  let start := skipSpace (Cursor.start text)
  let opened := start.rest.head?
  if opened = some '[' then
    failHere start (.misfit "invalid type: sequence, expected u16")
  else if opened = some '\x7b' then
    failHere start (.misfit "invalid type: map, expected u16")
  else
    let (v, c) ← value 0 start
    match v with
    | .number (.integer i) =>
      if 0 ≤ i ∧ i < 65536 then finish i.toNat c
      else failHere c (.misfit ("invalid value: " ++ v.description ++ ", expected u16"))
    | _ => failHere c (.misfit ("invalid type: " ++ v.description ++ ", expected u16"))

end PodLayers.Json
