/-!
# Places in a text

A cursor is what is left of a text together with the line it stands on and the bytes of that line already
passed. Problems are reported at the cursor, or one byte further when they blame the next character.
-/

namespace PodLayers

structure Position where
  line : Nat
  column : Nat
deriving DecidableEq, Repr

structure Cursor where
  rest : List Char
  line : Nat
  column : Nat
deriving Repr

namespace Cursor

def start (text : String) : Cursor := ⟨text.toList, 1, 0⟩

/-- Past one character, which stands in front of `rest`. -/
def past (c : Cursor) (head : Char) (rest : List Char) : Cursor :=
  if head = '\n' then ⟨rest, c.line + 1, 0⟩ else ⟨rest, c.line, c.column + head.utf8Size⟩

def next (c : Cursor) : Cursor :=
  match c.rest with
  | [] => c
  | head :: rest => c.past head rest

/-- Past a given list of characters that stand in front. -/
def skip (c : Cursor) : List Char → Cursor
  | [] => c
  | _ :: more => c.next.skip more

def position (c : Cursor) : Position := ⟨c.line, c.column⟩

/-- The position of the first byte of the next character; at the end, of the end. -/
def nextPosition (c : Cursor) : Position :=
  match c.rest with
  | [] => c.position
  | '\n' :: _ => ⟨c.line + 1, 0⟩
  | _ => ⟨c.line, c.column + 1⟩

/-- The characters from the cursor on that satisfy `p`. -/
def run (c : Cursor) (p : Char → Bool) : List Char := c.rest.takeWhile p

def skipWhile (c : Cursor) (p : Char → Bool) : Cursor := c.skip (c.run p)

end Cursor

end PodLayers
