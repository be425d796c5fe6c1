import PodLayers.Number.Binary64

/-!
# Shortest decimal text of a double

The digits printed for a double are the fewest that read back as it; among equally short ones the
nearest, and of two equally near ones the even one. How the digits are laid out is a `Layout`.
-/

namespace PodLayers

structure Decimal where
  digits : Nat
  power : Int
deriving DecidableEq, Repr

namespace Binary64

/-- Bounds are compared as multiples of `2^-1076`, a quarter of the smallest positive number. -/
def finePoint : Int := 1076

def fine (x : Binary64) : Nat := x.mantissa * twoTo (x.exponent + finePoint)

def gapAbove (x : Binary64) : Nat := twoTo (x.exponent + finePoint - 1)

/-- Half the distance to the next number below: at a power of two the numbers below are twice as dense. -/
def gapBelow (x : Binary64) : Nat :=
  if x.mantissa = leadingBit ∧ leastExponent < x.exponent then twoTo (x.exponent + finePoint - 2)
  else x.gapAbove

def onGrid (n bound : Nat) (power : Int) : Nat × Nat :=
  (n * tenTo power * twoTo finePoint, bound * tenTo (-power))

/-- Whether `n * 10^power` is read back as the magnitude of `x`: the interval is closed for even mantissas. -/
def readsBack (x : Binary64) (n : Nat) (power : Int) : Bool :=
  let (value, low) := onGrid n (x.fine - x.gapBelow) power
  let (_, high) := onGrid n (x.fine + x.gapAbove) power
  if x.mantissa % 2 = 0 then low ≤ value && value ≤ high else low < value && value < high

def leadingPower (x : Binary64) : Int :=
  let head := x.fine * tenTo 400 / twoTo finePoint
  ((Nat.toDigits 10 head).length : Int) - 1 - 400

/-- The neighbour of `x` on the grid of multiples of `10^power` that reads back, the nearer one of two. -/
def onDecimalGrid (x : Binary64) (power : Int) : Option Nat :=
  let below := x.fine * tenTo (-power) / (tenTo power * twoTo finePoint)
  match x.readsBack below power, x.readsBack (below + 1) power with
  | true, false => some below
  | false, true => some (below + 1)
  | false, false => none
  | true, true =>
    let (twice, target) := onGrid (2 * below + 1) (2 * x.fine) power
    if target < twice then some below
    else if twice < target then some (below + 1)
    else if below % 2 = 0 then some below
    else some (below + 1)

def shortestFrom (x : Binary64) (count : Nat) : Nat → Decimal
  | 0 => ⟨x.fine, 0⟩
  | steps + 1 =>
    let power := x.leadingPower - (count : Int) + 1
    match x.onDecimalGrid power with
    | some digits => ⟨digits, power⟩
    | none => shortestFrom x (count + 1) steps

/-- The fewest digits that read back as the magnitude of `x`; seventeen always do. -/
def shortest (x : Binary64) : Decimal :=
  if x.isZero then ⟨0, 0⟩ else x.shortestFrom 1 17

end Binary64

structure Layout where
  /-- The decimal exponents that are written positionally. -/
  isPlain : Int → Bool
  /-- Whether a whole number carries `.0`. -/
  keepsPoint : Bool
  signsExponent : Bool

namespace Layout

def trimZeros (digits : List Char) (power : Int) : List Char × Int :=
  let kept := (digits.reverse.dropWhile (· == '0')).reverse
  if kept.isEmpty then (['0'], 0) else (kept, power + (digits.length - kept.length : Nat))

def zeros (n : Int) : List Char := List.replicate n.toNat '0'

/-- Positional notation of digits whose first one stands at `10^lead`. -/
def plain (layout : Layout) (digits : List Char) (lead : Int) : List Char :=
  if lead < 0 then '0' :: '.' :: zeros (-lead - 1) ++ digits
  else
    let whole := (lead + 1).toNat
    if digits.length ≤ whole then
      digits ++ zeros (whole - digits.length : Nat) ++ (if layout.keepsPoint then ['.', '0'] else [])
    else digits.take whole ++ '.' :: digits.drop whole

def scientific (layout : Layout) (digits : List Char) (lead : Int) : List Char :=
  let fraction := digits.drop 1
  let sign := if lead < 0 then ['-'] else if layout.signsExponent then ['+'] else []
  digits.take 1 ++ (if fraction.isEmpty then [] else '.' :: fraction)
    ++ 'e' :: sign ++ Nat.toDigits 10 lead.natAbs

def write (layout : Layout) (negative : Bool) (number : Decimal) : String :=
  let (digits, power) := trimZeros (Nat.toDigits 10 number.digits) number.power
  let lead : Int := (digits.length : Int) - 1 + power
  let body :=
    if layout.isPlain lead then layout.plain digits lead else layout.scientific digits lead
  String.ofList (if negative then '-' :: body else body)

end Layout

/-- Numbers in documents: positional from `0.00001` up to sixteen digits before the point, always with a
point, and a signed exponent elsewhere. -/
def Layout.document : Layout := ⟨fun lead => -5 ≤ lead && lead ≤ 15, true, true⟩

/-- Numbers in messages about settings: always positional, a whole number without a point. -/
def Layout.message : Layout := ⟨fun _ => true, false, false⟩

def Binary64.write (layout : Layout) (x : Binary64) : String :=
  layout.write x.negative x.shortest

def Extended.inMessage : Extended → String
  | .finite x => x.write .message
  | .infinite negative => if negative then "-inf" else "inf"
  | .nan => "NaN"

end PodLayers
