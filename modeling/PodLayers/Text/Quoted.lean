import PodLayers.Text.Characters

/-!
# Quoted text in messages

A text quoted in a message stands between double quotes; quotes, backslashes, the usual controls and NUL
have two-character escapes, and every other character that does not print on its own is written by its
code point in braces.
-/

namespace PodLayers.Text

def hex (n : Nat) : List Char := Nat.toDigits 16 n

/-- The escape of a character by its code point, `\u` and hexadecimal digits in braces. -/
def codePointEscape (c : Char) : List Char :=
  ['\\', 'u', '\x7b'] ++ hex c.toNat ++ ['\x7d']

def quoteChar (c : Char) : List Char :=
  match c with
  | '\x00' => ['\\', '0']
  | '\t' => ['\\', 't']
  | '\n' => ['\\', 'n']
  | '\r' => ['\\', 'r']
  | '"' => ['\\', '"']
  | '\\' => ['\\', '\\']
  | c => if isPrintable c then [c] else codePointEscape c

def quoted (s : String) : String :=
  String.ofList ('"' :: s.toList.flatMap quoteChar ++ ['"'])

/-- A name between backticks. -/
def ticked (s : String) : String := "`" ++ s ++ "`"

/-- The names that could have stood somewhere: one alone, two joined by `or`, more as a list. -/
def oneOf : List String → String
  | [] => ""
  | [a] => ticked a
  | [a, b] => ticked a ++ " or " ++ ticked b
  | names => "one of " ++ String.intercalate ", " (names.map ticked)

end PodLayers.Text
