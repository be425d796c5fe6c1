import PodLayers.Number.Binary64

/-!
# Reading decimal literals

The literals are an optional sign, digits with at most one point and at least one digit, and an optional
exponent; or a name of an infinity or of "not a number" in any case. A literal is read as the nearest double.
-/

namespace PodLayers.Literal

def digitValue (c : Char) : Nat := c.toNat - '0'.toNat

/-- The number written by digits in a base, with the digits' own values. -/
def natOf (base : Nat) (value : Char → Nat) (digits : List Char) : Nat :=
  digits.foldl (fun n c => n * base + value c) 0

def decimal (digits : List Char) : Nat := natOf 10 digitValue digits

/-- An optional sign in front; `true` for a minus. -/
def sign : List Char → Bool × List Char
  | '+' :: rest => (false, rest)
  | '-' :: rest => (true, rest)
  | rest => (false, rest)

def lower (cs : List Char) : String := String.ofList (cs.map Char.toLower)

/-- The value of an exponent part `e`, sign, digits; zero when there is none. -/
def exponent? : List Char → Option Int
  | [] => some 0
  | c :: rest =>
    if c = 'e' ∨ c = 'E' then
      let (negative, digits) := sign rest
      if digits.isEmpty || !digits.all Char.isDigit then none
      else some (if negative then -(decimal digits : Int) else decimal digits)
    else none

def mantissa (cs : List Char) : List Char × List Char × List Char :=
  let whole := cs.takeWhile Char.isDigit
  match cs.dropWhile Char.isDigit with
  | '.' :: rest => (whole, rest.takeWhile Char.isDigit, rest.dropWhile Char.isDigit)
  | rest => (whole, [], rest)

def unsigned? (negative : Bool) (cs : List Char) : Option Extended :=
  let name := lower cs
  if name = "inf" ∨ name = "infinity" then some (.infinite negative)
  else if name = "nan" then some .nan
  else
    let (whole, fraction, rest) := mantissa cs
    if whole.isEmpty && fraction.isEmpty then none
    else (exponent? rest).map fun power =>
      match Binary64.ofDecimal negative (decimal (whole ++ fraction)) (power - fraction.length) with
      | some x => .finite x
      | none => .infinite negative

def float? (cs : List Char) : Option Extended :=
  let (negative, body) := sign cs
  unsigned? negative body

/-- The greatest number kept as an integer, of 64 bits without a sign. -/
def maxNatural : Nat := 18446744073709551615

/-- The least number kept as an integer, of 64 bits with a sign. -/
def minInteger : Int := -9223372036854775808

end PodLayers.Literal
