import PodLayers.Json.Fault
import PodLayers.Number.Literal
import PodLayers.Value.Basic

/-!
# Numbers in JSON text

A number without fraction and exponent stays an integer while it fits 64 bits. Otherwise its leading
digits, as many as fit 64 bits, are rounded to a double and scaled by a power of ten.
-/

namespace PodLayers.Json

def maxPower : Nat := 2147483647

/-- Appends digits to a number while it stays below a bound; also returns how many were appended. -/
def absorb (bound : Nat) : Nat → List Char → Nat × Nat
  | n, [] => (n, 0)
  | n, d :: rest =>
    let longer := n * 10 + Literal.digitValue d
    if bound < longer then (n, 0)
    else
      let (total, count) := absorb bound longer rest
      (total, count + 1)

def fromParts (negative : Bool) (significand : Nat) (power : Int) (c : Cursor) :
    Except Fault (Number × Cursor) :=
  match Binary64.scaled negative significand power with
  | some x => .ok (.float x, c)
  | none => failHere c .numberOutOfRange

/-- The exponent part, with the cursor behind its letter. -/
def exponentPart (negative : Bool) (significand : Nat) (power : Int) (c : Cursor) :
    Except Fault (Number × Cursor) :=
  let (down, c) := match c.rest with
    | '+' :: _ => (false, c.next)
    | '-' :: _ => (true, c.next)
    | _ => (false, c)
  let digits := c.run Char.isDigit
  if digits.isEmpty then
    if c.rest.isEmpty then failHere c .endInValue else failNext c .invalidNumber
  else
    let (shift, count) := absorb maxPower 0 digits
    if count < digits.length then
      if significand ≠ 0 ∧ !down then failHere (c.skip (digits.take (count + 1))) .numberOutOfRange
      else .ok (.float (Binary64.zero negative), c.skip digits)
    else fromParts negative significand (if down then power - shift else power + shift) (c.skip digits)

/-- What follows a significand that has become a double. -/
def afterDigits (negative : Bool) (significand : Nat) (power : Int) (c : Cursor) :
    Except Fault (Number × Cursor) :=
  match c.rest with
  | 'e' :: _ => exponentPart negative significand power c.next
  | 'E' :: _ => exponentPart negative significand power c.next
  | _ => fromParts negative significand power c

def fractionPart (negative : Bool) (significand : Nat) (power : Int) (c : Cursor) :
    Except Fault (Number × Cursor) :=
  let digits := c.run Char.isDigit
  if digits.isEmpty then
    if c.rest.isEmpty then failHere c .endInValue else failNext c .invalidNumber
  else
    let (total, count) := absorb Literal.maxNatural significand digits
    afterDigits negative total (power - count) (c.skip digits)

/-- An integer, or a double where it is negative and too small or zero. -/
def wholeNumber (negative : Bool) (n : Nat) (c : Cursor) : Except Fault (Number × Cursor) :=
  if !negative then .ok (.integer n, c)
  else if n = 0 ∨ -(n : Int) < Literal.minInteger then fromParts true n 0 c
  else .ok (.integer (-n), c)

/-- What follows the digits in front of the point; `dropped` of them did not fit. -/
def afterWhole (negative : Bool) (n dropped : Nat) (c : Cursor) : Except Fault (Number × Cursor) :=
  match c.rest with
  | '.' :: _ => fractionPart negative n dropped c.next
  | _ =>
    if dropped = 0 ∧ ¬ (c.rest.head? = some 'e' ∨ c.rest.head? = some 'E') then wholeNumber negative n c
    else afterDigits negative n dropped c

def number (negative : Bool) (c : Cursor) : Except Fault (Number × Cursor) :=
  match c.rest with
  | [] => failHere c .endInValue
  | '0' :: d :: _ =>
    if d.isDigit then failNext c.next .invalidNumber else afterWhole negative 0 0 c.next
  | head :: _ =>
    if head.isDigit then
      let digits := c.run Char.isDigit
      let (n, count) := absorb Literal.maxNatural 0 digits
      afterWhole negative n (digits.length - count) (c.skip digits)
    else failNext c .invalidNumber

end PodLayers.Json
