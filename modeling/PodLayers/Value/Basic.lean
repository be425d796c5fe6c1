import PodLayers.Number.Binary64
import PodLayers.Value.Entries

/-!
# Trees of values

A value is null, a boolean, a number, a text, a list or a mapping. Overrides, configuration documents and
all that is read from text are values. Mappings keep their entries in key order; `Value.Ordered` says so of
every mapping in a tree. Records are written as values field by field, in the order of declaration.
-/

namespace PodLayers

/-- Whole numbers stay apart from fractions, even where the numbers denoted are equal. -/
inductive Number
  | integer (i : Int)
  | float (x : Binary64)
deriving DecidableEq, Repr, Inhabited

/-- Equality of numbers of one kind; the two zeros of a fraction agree. -/
def Number.same : Number → Number → Bool
  | .integer i, .integer j => i == j
  | .float x, .float y => x.sameNumber y
  | _, _ => false

inductive Value
  | null
  | bool (b : Bool)
  | number (n : Number)
  | text (s : String)
  | list (items : List Value)
  | mapping (entries : List (String × Value))
deriving Repr, Inhabited

namespace Value

def integer (i : Int) : Value := .number (.integer i)

def isNull : Value → Bool
  | .null => true
  | _ => false

def isMapping : Value → Bool
  | .mapping _ => true
  | _ => false

def text? : Value → Option String
  | .text s => some s
  | _ => none

/-- The entries of a mapping; none for any other value. -/
def entries : Value → List (String × Value)
  | .mapping es => es
  | _ => []

/-- The items of a list; none for any other value. -/
def items : Value → List Value
  | .list xs => xs
  | _ => []

/-- The value at a key of a mapping. -/
def get? (v : Value) (key : String) : Option Value := Entries.find? key v.entries

/-- The value reached through nested mappings. -/
def at? (v : Value) : List String → Option Value
  | [] => some v
  | key :: path => (v.get? key).bind fun inner => inner.at? path

mutual

/-- Equality up to the sign of zeros. -/
def same : Value → Value → Bool
  | .null, .null => true
  | .bool a, .bool b => a == b
  | .number m, .number n => m.same n
  | .text s, .text t => s == t
  | .list xs, .list ys => sameItems xs ys
  | .mapping es, .mapping fs => sameEntries es fs
  | _, _ => false

def sameItems : List Value → List Value → Bool
  | [], [] => true
  | x :: xs, y :: ys => x.same y && sameItems xs ys
  | _, _ => false

def sameEntries : List (String × Value) → List (String × Value) → Bool
  | [], [] => true
  | (k, v) :: es, (l, w) :: fs => k == l && v.same w && sameEntries es fs
  | _, _ => false

end

mutual

/-- Every mapping in the tree has its entries in key order. -/
def Ordered : Value → Prop
  | .list xs => OrderedItems xs
  | .mapping es => Entries.Sorted es ∧ OrderedEntries es
  | _ => True

def OrderedItems : List Value → Prop
  | [] => True
  | x :: xs => x.Ordered ∧ OrderedItems xs

def OrderedEntries : List (String × Value) → Prop
  | [] => True
  | (_, v) :: es => v.Ordered ∧ OrderedEntries es

end

mutual

/-- The same tree with the entries of every mapping in key order. -/
def arranged : Value → Value
  | .list xs => .list (arrangedItems xs)
  | .mapping es => .mapping (Entries.ofList (arrangedEntries es))
  | v => v

def arrangedItems : List Value → List Value
  | [] => []
  | x :: xs => x.arranged :: arrangedItems xs

def arrangedEntries : List (String × Value) → List (String × Value)
  | [] => []
  | (k, v) :: es => (k, v.arranged) :: arrangedEntries es

end

/-- How a value is named where a mapping was expected. -/
def kindName : Value → String
  | .null => "null"
  | .bool _ => "a boolean"
  | .number _ => "a number"
  | .text _ => "a string"
  | .list _ => "a list"
  | .mapping _ => "a mapping"

/-! ## Writing records -/

section Records

variable {α : Type}

/-- A field as it is written, unless it is left out. -/
abbrev Written := Option (String × Value)

def always (name : String) (v : Value) : Written := some (name, v)

def ifPresent (name : String) (write : α → Value) (a : Option α) : Written :=
  a.map fun a => (name, write a)

def omitIf (name : String) (skipped : Bool) (v : Value) : Written :=
  if skipped then none else some (name, v)

def ofFields (fields : List Written) : Value := .mapping (fields.filterMap id)

def ofList (write : α → Value) (items : List α) : Value := .list (items.map write)

def ofMap (write : α → Value) (map : SortedMap α) : Value :=
  .mapping (map.entries.map fun entry => (entry.1, write entry.2))

def ofNat (n : Nat) : Value := .integer n

end Records

end Value

end PodLayers
