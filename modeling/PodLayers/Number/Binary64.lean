/-!
# Finite binary64 numbers

A finite double is kept as sign, mantissa and binary exponent, so that every rounding in the library
is a statement about natural numbers. `Binary64.round` is the only place where precision is lost: it
takes an exact quotient and returns the nearest representable number, halves going to the even mantissa.
-/

namespace PodLayers

/-- The number `(-1)^negative * mantissa * 2^exponent`. -/
structure Binary64 where
  negative : Bool
  mantissa : Nat
  exponent : Int
deriving DecidableEq, Repr, Inhabited

namespace Binary64

/-- A power of two; one where the exponent is negative. -/
def twoTo (k : Int) : Nat := Nat.pow 2 k.toNat

/-- A power of ten; one where the exponent is negative. -/
def tenTo (k : Int) : Nat := Nat.pow 10 k.toNat

/-- The exponent of the smallest positive number. -/
def leastExponent : Int := -1074

def greatestExponent : Int := 971

/-- Normal mantissas lie between this and its double. -/
def leadingBit : Nat := twoTo 52

def zero (negative : Bool) : Binary64 := ⟨negative, 0, leastExponent⟩

def isZero (x : Binary64) : Bool := x.mantissa == 0

/-- Equality of the numbers denoted: the two zeros agree. -/
def sameNumber (x y : Binary64) : Bool :=
  (x.isZero && y.isZero) || x == y

/-- The quotient rounded to the nearest natural number, a half to the even one. -/
def roundQuotient (num den : Nat) : Nat :=
  let quotient := num / den
  let rest := num % den
  if 2 * rest < den then quotient
  else if den < 2 * rest then quotient + 1
  else if quotient % 2 = 0 then quotient
  else quotient + 1

/-- The greatest `e` with `2^e ≤ num / den`, for positive `num` and `den`. -/
def floorLog2 (num den : Nat) : Int :=
  let estimate : Int := (num.log2 : Int) - (den.log2 : Int)
  if den * twoTo estimate ≤ num * twoTo (-estimate) then estimate else estimate - 1

/-- The representable number nearest to `num / den * 2^shift`; nothing when that is beyond the largest. -/
def round (negative : Bool) (num den : Nat) (shift : Int) : Option Binary64 :=
  if num = 0 then some (zero negative)
  else
    let exponent := max leastExponent (floorLog2 num den + shift - 52)
    let scale := shift - exponent
    let mantissa := roundQuotient (num * twoTo scale) (den * twoTo (-scale))
    let (mantissa, exponent) :=
      if mantissa = 2 * leadingBit then (leadingBit, exponent + 1) else (mantissa, exponent)
    if exponent > greatestExponent then none else some ⟨negative, mantissa, exponent⟩

def ofNat (n : Nat) : Option Binary64 := round false n 1 0

def mul (x y : Binary64) : Option Binary64 :=
  round (x.negative != y.negative) (x.mantissa * y.mantissa) 1 (x.exponent + y.exponent)

def div (x y : Binary64) : Option Binary64 :=
  round (x.negative != y.negative) x.mantissa y.mantissa (x.exponent - y.exponent)

/-- The number nearest to `digits * 10^power`; nothing when it is too large. The two early answers only
keep powers of ten small: beyond them the result is already decided. -/
def ofDecimal (negative : Bool) (digits : Nat) (power : Int) : Option Binary64 :=
  let magnitude : Int := (Nat.toDigits 10 digits).length + power
  if digits = 0 then some (zero negative)
  else if magnitude > 310 then none
  else if magnitude < -340 then some (zero negative)
  else round negative (digits * tenTo power) (tenTo (-power)) 0

def stepPower : Nat := 308

def scaleOnce (x : Binary64) (power : Int) : Option Binary64 := do
  let ten ← ofNat (tenTo power.natAbs)
  if 0 ≤ power then x.mul ten else x.div ten

/-- Scaling in steps of at most `10^308`, each rounded; a nonzero number with a larger power is out of range. -/
def scaleSteps : Nat → Binary64 → Int → Option Binary64
  | 0, x, power => scaleOnce x power
  | steps + 1, x, power =>
    if power.natAbs ≤ stepPower then scaleOnce x power
    else if x.isZero then some x
    else if 0 ≤ power then none
    else do scaleSteps steps (← scaleOnce x (-stepPower)) (power + stepPower)

/-- A significand rounded first and then scaled by a power of ten: two roundings where `ofDecimal` has
one. Nothing when the result is out of range. -/
def scaled (negative : Bool) (significand : Nat) (power : Int) : Option Binary64 := do
  let magnitude ← scaleSteps (power.natAbs / stepPower) (← ofNat significand) power
  return { magnitude with negative := negative }

end Binary64

inductive Extended
  | finite (x : Binary64)
  | infinite (negative : Bool)
  | nan
deriving DecidableEq, Repr, Inhabited

end PodLayers
