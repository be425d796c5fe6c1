import PodLayers.Record.Basic
import PodLayers.Value.Basic

/-!
# Resource quantities

A quantity is an optional sign, a decimal number with at least one digit and at most one point, and a
suffix: a unit or a decimal exponent. The text is kept as it was written.
-/

namespace PodLayers

/-- A checked quantity, by its text. -/
structure Quantity where
  text : String
deriving DecidableEq, Repr

/-- Why a text is not a quantity, in the order in which the reasons are looked for. -/
inductive QuantityProblem
  | empty
  | noDigit
  | twoPoints
  | unknownSuffix
deriving DecidableEq, Repr

structure QuantityFault where
  input : String
  problem : QuantityProblem
deriving DecidableEq, Repr

def QuantityProblem.message : QuantityProblem → String
  | .empty => "quantity is empty"
  | .noDigit => "missing numeric part"
  | .twoPoints => "more than one decimal point"
  | .unknownSuffix => "unknown suffix"

def QuantityFault.message (fault : QuantityFault) : String :=
  "`" ++ fault.input ++ "` is not a valid quantity: " ++ fault.problem.message

namespace Quantity

/-- The units, the empty one included. -/
def units : List (List Char) :=
  [[], ['K', 'i'], ['M', 'i'], ['G', 'i'], ['T', 'i'], ['P', 'i'], ['E', 'i'], ['n'], ['u'], ['m'], ['k'],
    ['M'], ['G'], ['T'], ['P'], ['E']]

/-- A text without one sign in front. -/
def withoutSign : List Char → List Char
  | '+' :: rest => rest
  | '-' :: rest => rest
  | cs => cs

def inNumber (c : Char) : Bool := c.isDigit || c == '.'

/-- The leading digits and points of an unsigned text. -/
def numberPart (cs : List Char) : List Char := cs.takeWhile inNumber

def suffixPart (cs : List Char) : List Char := cs.dropWhile inNumber

/-- A decimal exponent: `e` or `E`, an optional sign and digits. -/
def isExponent : List Char → Bool
  | [] => false
  | c :: rest =>
    let digits := withoutSign rest
    (c == 'e' || c == 'E') && !digits.isEmpty && digits.all Char.isDigit

def isSuffix (cs : List Char) : Bool := units.contains cs || isExponent cs

/-- The first thing wrong with a text, if any. -/
def problem? (cs : List Char) : Option QuantityProblem :=
  let unsigned := withoutSign cs
  if cs.isEmpty then some .empty
  else if !(numberPart unsigned).any Char.isDigit then some .noDigit
  else if 1 < (numberPart unsigned).count '.' then some .twoPoints
  else if !isSuffix (suffixPart unsigned) then some .unknownSuffix
  else none

def parse (input : String) : Except QuantityFault Quantity :=
  match problem? input.toList with
  | some problem => .error ⟨input, problem⟩
  | none => .ok ⟨input⟩

def read {ν : Type} [Readable ν] : Reader ν Quantity :=
  Read.checked fun text => (parse text).mapError QuantityFault.message

def encode (quantity : Quantity) : Value := .text quantity.text

end Quantity

end PodLayers
