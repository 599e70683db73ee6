import FormRules.Number.Binary64

/-!
Data trees: the values that configuration and recorded inputs are written as, whatever notation
they come in.
-/

namespace FormRules

/-- A number as written: a whole number of at most 64 bits, or a double. -/
inductive Data.Number where
  | natural (n : Nat)
  /-- Minus `n`, where `n` is positive. -/
  | negative (n : Nat)
  | real (x : Binary64)
deriving DecidableEq, Repr

inductive Data where
  | null
  | bool (b : Bool)
  | number (n : Data.Number)
  | text (s : String)
  | list (items : List Data)
  /-- Entries in the order written; a key may occur twice. -/
  | record (entries : List (String × Data))
deriving Repr

namespace Data

namespace Number

/-- Whole numbers of 64 bits without a sign are below this, 2^64. -/
def unsignedLimit : Nat := 0x10000000000000000

/-- Whole numbers of 64 bits with a sign are below this, 2^63, and at least minus this. -/
def signedLimit : Nat := 0x8000000000000000

def toBinary64 : Number → Binary64
  | natural n => .ofRatio false n 1
  | negative n => .ofRatio true n 1
  | real x => x

end Number

def textList (items : List String) : Data :=
  .list (items.map .text)

def optionalText : Option String → Data
  | none => .null
  | some s => .text s

/-- The last entry under a key. -/
def get? (key : String) : Data → Option Data
  | .record entries => entries.reverse.lookup key
  | _ => none

end Data

end FormRules
