import FormRules.Number.Binary64

/-!
Decimal texts and the numbers they denote.
-/

namespace FormRules

def digitsValue (cs : List Char) : Nat :=
  cs.foldl (fun n c => 10 * n + (c.toNat - '0'.toNat)) 0

/-- The number `digits / 10 ^ places`, or minus that. -/
structure Decimal where
  negative : Bool
  digits : Nat
  places : Nat
deriving DecidableEq, Repr

namespace Decimal

/-- Digits with at most one point among or before them. -/
def ofUnsigned? (negative : Bool) (cs : List Char) : Option Decimal :=
  let whole := cs.takeWhile Char.isDigit
  let fraction :=
    match cs.dropWhile Char.isDigit with
    | [] => some []
    | c :: rest => if c = '.' ∧ rest.all Char.isDigit then some rest else none
  match fraction with
  | none => none
  | some fraction =>
    if whole.isEmpty && fraction.isEmpty then none
    else some ⟨negative, digitsValue (whole ++ fraction), fraction.length⟩

def ofChars? : List Char → Option Decimal
  | '-' :: cs => ofUnsigned? true cs
  | cs => ofUnsigned? false cs

def toBinary64 (d : Decimal) : Binary64 :=
  .ofRatio d.negative d.digits (Nat.pow 10 d.places)

end Decimal

end FormRules
