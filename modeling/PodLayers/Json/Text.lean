import PodLayers.Json.Fault

/-!
# Strings in JSON text

The readers start behind the opening quote. A pair of escapes may stand for one character beyond the basic
plane; a surrogate on its own is refused.
-/

namespace PodLayers.Json

def hexValue? (c : Char) : Option Nat :=
  if c.isDigit then some (c.toNat - '0'.toNat)
  else if 'a' ≤ c ∧ c ≤ 'f' then some (c.toNat - 'a'.toNat + 10)
  else if 'A' ≤ c ∧ c ≤ 'F' then some (c.toNat - 'A'.toNat + 10)
  else none

def hexNumber? : List Char → Option Nat
  | [a, b, c, d] => do
    return ((← hexValue? a) * 16 + (← hexValue? b)) * 256 + (← hexValue? c) * 16 + (← hexValue? d)
  | _ => none

/-- The place `count` bytes further; nothing when the text ends before. -/
def passBytes (c : Cursor) : Nat → Option Cursor
  | 0 => some c
  | count + 1 =>
    match c.rest with
    | [] => none
    | head :: rest =>
      if head.utf8Size ≤ count + 1 then passBytes (c.past head rest) (count + 1 - head.utf8Size)
      else some { c with column := c.column + (count + 1) }
  termination_by count => count
  decreasing_by have := Char.utf8Size_pos head; omega

def toEnd (c : Cursor) : Cursor := c.skip c.rest

/-- The code unit of an escape, with the cursor behind its `u`. -/
def codeUnit (c : Cursor) : Except Fault (Nat × Cursor) :=
  match passBytes c 4 with
  | none => failHere (toEnd c) .endInString
  | some after =>
    match hexNumber? (c.rest.take 4) with
    | some n => .ok (n, after)
    | none => failHere after .invalidEscape

def continued (wanted : Char) (c : Cursor) : Except Fault Cursor :=
  match c.rest with
  | [] => failHere c .endInString
  | head :: _ =>
    if head = wanted then .ok c.next else .error ⟨.unfinishedSurrogate, c.nextPosition⟩

/-- The character of a `u` escape, with the cursor behind the `u`. -/
def codePoint (c : Cursor) : Except Fault (Char × Cursor) := do
  let (high, c) ← codeUnit c
  if 0xdc00 ≤ high ∧ high ≤ 0xdfff then failHere c .loneSurrogate
  else if high < 0xd800 ∨ 0xdbff < high then return (Char.ofNat high, c)
  else
    let (low, c) ← codeUnit (← continued 'u' (← continued '\\' c))
    if low < 0xdc00 ∨ 0xdfff < low then failHere c .loneSurrogate
    else return (Char.ofNat (0x10000 + (high - 0xd800) * 0x400 + (low - 0xdc00)), c)

def escape (c : Cursor) : Except Fault (Char × Cursor) :=
  match c.rest with
  | [] => failHere c .endInString
  | '"' :: _ => .ok ('"', c.next)
  | '\\' :: _ => .ok ('\\', c.next)
  | '/' :: _ => .ok ('/', c.next)
  | 'b' :: _ => .ok ('\x08', c.next)
  | 'f' :: _ => .ok ('\x0c', c.next)
  | 'n' :: _ => .ok ('\n', c.next)
  | 'r' :: _ => .ok ('\r', c.next)
  | 't' :: _ => .ok ('\t', c.next)
  | 'u' :: _ => codePoint c.next
  | _ => .error ⟨.invalidEscape, c.nextPosition⟩

/-- The characters up to the closing quote; each step takes at least one character of the text. -/
def stringBody : Nat → Cursor → Except Fault (List Char × Cursor)
  | 0, c => failHere c .endInString
  | steps + 1, c =>
    match c.rest with
    | [] => failHere c .endInString
    | '"' :: _ => .ok ([], c.next)
    | '\\' :: _ => do
      let (char, c) ← escape c.next
      let (more, c) ← stringBody steps c
      return (char :: more, c)
    | head :: _ =>
      if head.toNat < 0x20 then failHere c.next .controlInString
      else do
        let (more, c) ← stringBody steps c.next
        return (head :: more, c)

def string (c : Cursor) : Except Fault (String × Cursor) := do
  let (chars, c) ← stringBody (c.rest.length + 1) c
  return (String.ofList chars, c)

end PodLayers.Json
