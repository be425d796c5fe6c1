import PodLayers.Value.Basic
import PodLayers.Number.Shortest
import PodLayers.Text.Quoted

/-!
# Texts of values

The compact text of a value has no blanks; entries stand in the order in which the tree holds them. Strings
escape quotes, backslashes and controls and keep every other character. In messages a value is described in
a few words.
-/

namespace PodLayers

/-- A hexadecimal digit in lower case. -/
def hexDigit (n : Nat) : Char := (Nat.toDigits 16 n).headD '0'

namespace Value

/-- A character inside a string. -/
def escapeChar (c : Char) : List Char :=
  match c with
  | '"' => ['\\', '"']
  | '\\' => ['\\', '\\']
  | '\x08' => ['\\', 'b']
  | '\x0c' => ['\\', 'f']
  | '\n' => ['\\', 'n']
  | '\r' => ['\\', 'r']
  | '\t' => ['\\', 't']
  | c =>
    if c.toNat < 0x20 then ['\\', 'u', '0', '0', hexDigit (c.toNat / 16), hexDigit (c.toNat % 16)]
    else [c]

def writeString (s : String) : String :=
  String.ofList ('"' :: s.toList.flatMap escapeChar ++ ['"'])

end Value

def Number.write : Number → String
  | .integer i => toString i
  | .float x => x.write .document

namespace Value

mutual

def write : Value → String
  | .null => "null"
  | .bool b => if b then "true" else "false"
  | .number n => n.write
  | .text s => writeString s
  | .list xs => "[" ++ writeItems xs ++ "]"
  | .mapping es => "\x7b" ++ writeEntries es ++ "\x7d"

def writeItems : List Value → String
  | [] => ""
  | [x] => x.write
  | x :: xs => x.write ++ "," ++ writeItems xs

def writeEntries : List (String × Value) → String
  | [] => ""
  | [(k, v)] => writeString k ++ ":" ++ v.write
  | (k, v) :: es => writeString k ++ ":" ++ v.write ++ "," ++ writeEntries es

end

/-- How the value is described in messages. -/
def description : Value → String
  | .null => "null"
  | .bool b => "boolean " ++ Text.ticked (if b then "true" else "false")
  | .number (.integer i) => "integer " ++ Text.ticked (toString i)
  | .number (.float x) => "floating point " ++ Text.ticked (x.write .document)
  | .text s => "string " ++ Text.quoted s
  | .list _ => "sequence"
  | .mapping _ => "map"

end Value

end PodLayers
