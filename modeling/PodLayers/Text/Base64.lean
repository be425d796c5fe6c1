import PodLayers.Text.Characters

/-!
# Base64

Four letters stand for three bytes. Equals signs fill up the last four letters, and the bits there that
belong to no byte are zero, so that a list of bytes has one written form.
-/

namespace PodLayers.Text.Base64

/-- The six bits that a letter stands for. -/
def bits? (c : Char) : Option Nat :=
  if 'A' ≤ c ∧ c ≤ 'Z' then some (c.toNat - 'A'.toNat)
  else if 'a' ≤ c ∧ c ≤ 'z' then some (c.toNat - 'a'.toNat + 26)
  else if c.isDigit then some (c.toNat - '0'.toNat + 52)
  else if c = '+' then some 62
  else if c = '/' then some 63
  else none

/-- The bytes that letters stand for. -/
def decode? : List Char → Option (List UInt8)
  | [] => some []
  | [a, b, '=', '='] => do
    let a ← bits? a
    let b ← bits? b
    if b % 16 = 0 then return [UInt8.ofNat (a * 4 + b / 16)] else none
  | [a, b, c, '='] => do
    let a ← bits? a
    let b ← bits? b
    let c ← bits? c
    if c % 4 = 0 then return [UInt8.ofNat (a * 4 + b / 16), UInt8.ofNat (b * 16 + c / 4)] else none
  | a :: b :: c :: d :: rest => do
    let a ← bits? a
    let b ← bits? b
    let c ← bits? c
    let d ← bits? d
    return UInt8.ofNat (a * 4 + b / 16) :: UInt8.ofNat (b * 16 + c / 4) :: UInt8.ofNat (c * 64 + d)
      :: (← decode? rest)
  | _ => none

/-- The text whose bytes are written, with white space anywhere. -/
def text? (cs : List Char) : Option String := do
  let bytes ← decode? (cs.filter fun c => !isBlank c)
  String.fromUTF8? ⟨bytes.toArray⟩

end PodLayers.Text.Base64
