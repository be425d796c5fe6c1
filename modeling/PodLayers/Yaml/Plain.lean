import PodLayers.Json.Text
import PodLayers.Number.Literal
import PodLayers.Text.Characters
import PodLayers.Value.Basic

/-!
# Plain scalars

A plain scalar is a boolean, a number or a text. There is no plain null. Numbers without a finite double are
texts of one spelling.
-/

namespace PodLayers.Yaml

def radix : List Char → Nat × List Char
  | '0' :: 'x' :: digits | '0' :: 'X' :: digits => (16, digits)
  | '0' :: 'o' :: digits | '0' :: 'O' :: digits => (8, digits)
  | '0' :: 'b' :: digits | '0' :: 'B' :: digits => (2, digits)
  | digits => (10, digits)

/-- The number written by digits, among which underscores do not count. -/
def natural? (base : Nat) (cs : List Char) : Option Nat :=
  let digits := cs.filter (· != '_')
  if digits.isEmpty then none
  else do
    let values ← digits.mapM fun c => (Json.hexValue? c).filter (· < base)
    return values.foldl (fun n d => n * base + d) 0

/-- An integer of 64 bits; only a negative one is signed. -/
def integer? (cs : List Char) : Option Int := do
  let (negative, body) := Literal.sign cs
  let (base, digits) := radix body
  let n ← natural? base digits
  let i : Int := if negative then -n else n
  if Literal.minInteger ≤ i ∧ i ≤ Literal.maxNatural then some i else none

def pointName? (cs : List Char) : Option Extended :=
  let (negative, name) := Literal.sign cs
  match Literal.lower name with
  | ".inf" => some (.infinite negative)
  | ".nan" => some .nan
  | _ => none

def ofExtended : Extended → Value
  | .finite x => .number (.float x)
  | .infinite negative => .text (if negative then "-.inf" else ".inf")
  | .nan => .text ".nan"

/-- What a plain scalar denotes; white space around booleans and numbers does not count. -/
def plainValue (s : String) : Value :=
  let cs := Text.trim s.toList
  let name := Literal.lower cs
  if name = "true" then .bool true
  else if name = "false" then .bool false
  else
    match integer? cs with
    | some i => Value.integer i
    | none =>
      match (pointName? cs).or (Literal.float? cs) with
      | some x => ofExtended x
      | none => .text s

end PodLayers.Yaml
