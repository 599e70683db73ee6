/-!
Double precision numbers other than NaN, exactly.

A number is its sign and the other 63 bits of its interchange format, read as a natural number: the
*pattern*. Patterns grow with absolute values, so comparing numbers is comparing patterns, and
rounding a ratio is choosing the nearest pattern. All arithmetic is on natural numbers, in units of
2^-1074, the least positive double.
-/

namespace FormRules

/-- The pattern of infinity. -/
def Binary64.infinity : Nat := 0x7ff0000000000000

/-- How many patterns lie from one power of two to the next, 2^52. -/
def Binary64.binade : Nat := 0x0010000000000000

structure Binary64 where
  negative : Bool
  pattern : Nat
  pattern_le : pattern ≤ Binary64.infinity := by decide
deriving DecidableEq, Repr

namespace Binary64

/--
The value of a pattern in units of 2^-1074. For the pattern of infinity this is 2^1024, the number
at which rounding leaves the finite doubles.
-/
def units (pattern : Nat) : Nat :=
  if pattern < binade then pattern
  else (binade + pattern % binade) <<< (pattern / binade - 1)

/-- The greatest pattern whose value is at most `n` units. -/
def floorPattern (n : Nat) : Nat :=
  (n.log2 - 52) <<< 52 + n >>> (n.log2 - 52)

/-- The pattern nearest to `num / den` units; of two nearest, the even one. -/
def nearestPattern (num den : Nat) : Nat :=
  let below := floorPattern (num / den)
  let excess := 2 * (num - units below * den)
  let gap := (units (below + 1) - units below) * den
  if gap < excess ∨ (gap = excess ∧ below % 2 = 1) then below + 1 else below

/-- The double nearest to `num / den`, or to minus that. -/
def ofRatio (negative : Bool) (num den : Nat) : Binary64 where
  negative
  pattern := min (nearestPattern (num <<< 1074) den) infinity
  pattern_le := Nat.min_le_right ..

def neg (x : Binary64) : Binary64 :=
  { x with negative := !x.negative }

def isInfinite (x : Binary64) : Bool :=
  x.pattern == infinity

def mulAbs (x y : Binary64) : Binary64 :=
  ofRatio false (units x.pattern * units y.pattern) (1 <<< 2148)

def divAbs (x y : Binary64) : Binary64 :=
  ofRatio false (units x.pattern) (units y.pattern)

/-- Numbers compare as their ranks do; both zeros have rank zero. -/
def rank (x : Binary64) : Int :=
  if x.negative then -x.pattern else x.pattern

instance : LE Binary64 := ⟨fun x y => x.rank ≤ y.rank⟩
instance : LT Binary64 := ⟨fun x y => x.rank < y.rank⟩

instance (x y : Binary64) : Decidable (x ≤ y) := inferInstanceAs (Decidable (x.rank ≤ y.rank))
instance (x y : Binary64) : Decidable (x < y) := inferInstanceAs (Decidable (x.rank < y.rank))

/-- The interchange format, with the sign above the pattern. -/
def bits (x : Binary64) : Nat :=
  (if x.negative then 0x8000000000000000 else 0) + x.pattern

end Binary64

end FormRules
