import PodLayers.Json.Cursor

/-!
# Why a text is not a JSON value
-/

namespace PodLayers.Json

inductive Problem
  | endInValue
  | endInObject
  | endInList
  | endInString
  | expectedValue
  | expectedColon
  | expectedCommaOrBrace
  | expectedCommaOrBracket
  | keyNotString
  | trailingComma
  | trailingCharacters
  | brokenWord
  | invalidNumber
  | numberOutOfRange
  | invalidEscape
  | loneSurrogate
  | unfinishedSurrogate
  | controlInString
  | tooDeep
  /-- The text is a JSON value, but not one of the wanted kind. -/
  | misfit (detail : String)
deriving DecidableEq, Repr

def Problem.message : Problem → String
  | .endInValue => "EOF while parsing a value"
  | .endInObject => "EOF while parsing an object"
  | .endInList => "EOF while parsing a list"
  | .endInString => "EOF while parsing a string"
  | .expectedValue => "expected value"
  | .expectedColon => "expected `:`"
  | .expectedCommaOrBrace => "expected `,` or `\x7d`"
  | .expectedCommaOrBracket => "expected `,` or `]`"
  | .keyNotString => "key must be a string"
  | .trailingComma => "trailing comma"
  | .trailingCharacters => "trailing characters"
  | .brokenWord => "expected ident"
  | .invalidNumber => "invalid number"
  | .numberOutOfRange => "number out of range"
  | .invalidEscape => "invalid escape"
  | .loneSurrogate => "lone leading surrogate in hex escape"
  | .unfinishedSurrogate => "unexpected end of hex escape"
  | .controlInString => "control character (\\u0000-\\u001F) found while parsing a string"
  | .tooDeep => "recursion limit exceeded"
  | .misfit detail => detail

structure Fault where
  problem : Problem
  position : Position
deriving DecidableEq, Repr

def Fault.message (fault : Fault) : String :=
  fault.problem.message ++ " at line " ++ toString fault.position.line
    ++ " column " ++ toString fault.position.column

/-- A problem at the cursor. -/
def failHere {α : Type} (c : Cursor) (problem : Problem) : Except Fault α :=
  .error ⟨problem, c.position⟩

/-- A problem with the next character. -/
def failNext {α : Type} (c : Cursor) (problem : Problem) : Except Fault α :=
  .error ⟨problem, c.nextPosition⟩

end PodLayers.Json
