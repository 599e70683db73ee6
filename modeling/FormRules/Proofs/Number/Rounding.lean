import FormRules.Number.Binary64
import Mathlib.Algebra.Order.Field.Basic
import Mathlib.Data.Nat.Dist
import Mathlib.Data.Rat.Cast.Order
import Mathlib.Order.Monotone.Basic
import Mathlib.Tactic.FieldSimp
import Mathlib.Tactic.Linarith

/-!
# Rounding

The double of a ratio is the nearest one, and of two nearest ones the one with the even pattern.
Infinity takes part as the power of two that follows the finite doubles, so that ratios half way to
it and beyond are rounded to it.
-/

namespace FormRules.Proofs.Number
open Binary64

variable {p p' n num den x k m : Nat}

/-! ## Patterns and their values -/

theorem binade_eq : binade = 2 ^ 52 :=
  rfl

theorem binade_pos : 0 < binade := by
  decide

theorem units_of_le (small : p ≤ binade) : units p = p := by
  unfold units
  split
  · rfl
  · rename_i notLess
    have first : p = binade := by omega
    rw [first, Nat.mod_self, Nat.div_self binade_pos]
    rfl

/-- The end of a binade is the start of the next one, so the bound is included. -/
theorem units_normal (small : m ≤ binade) :
    units (binade * (k + 1) + m) = (binade + m) * 2 ^ k := by
  have above : ¬binade * (k + 1) + m < binade := by
    rw [Nat.mul_add_one]
    omega
  rw [units, if_neg above, Nat.shiftLeft_eq, Nat.mul_add_mod, Nat.mul_add_div binade_pos]
  rcases Nat.lt_or_eq_of_le small with less | rfl
  · rw [Nat.mod_eq_of_lt less, Nat.div_eq_of_lt less]
    rfl
  · rw [Nat.mod_self, Nat.div_self binade_pos]
    show (binade + 0) * 2 ^ (k + 1) = (binade + binade) * 2 ^ k
    rw [Nat.pow_succ, Nat.add_zero, ← Nat.mul_two, Nat.mul_assoc, Nat.mul_comm 2]

theorem exists_normal (above : binade ≤ p) : ∃ k m, m < binade ∧ p = binade * (k + 1) + m := by
  refine ⟨p / binade - 1, p % binade, Nat.mod_lt _ binade_pos, ?_⟩
  have positive : 0 < p / binade := Nat.div_pos above binade_pos
  rw [Nat.sub_add_cancel positive, Nat.div_add_mod]

def gap (p : Nat) : Nat :=
  2 ^ (p / binade - 1)

theorem gap_normal (small : m < binade) : gap (binade * (k + 1) + m) = 2 ^ k := by
  rw [gap, Nat.mul_add_div binade_pos, Nat.div_eq_of_lt small]
  rfl

theorem gap_of_lt (small : p < binade) : gap p = 1 := by
  rw [gap, Nat.div_eq_of_lt small]
  rfl

theorem units_succ (p : Nat) : units (p + 1) = units p + gap p := by
  rcases Nat.lt_or_ge p binade with small | above
  · rw [units_of_le small, units_of_le (Nat.le_of_lt small), gap_of_lt small]
  · obtain ⟨k, m, small, rfl⟩ := exists_normal above
    rw [Nat.add_assoc, units_normal small, units_normal (Nat.le_of_lt small), gap_normal small,
      ← Nat.add_one_mul]
    rfl

theorem units_strictMono : StrictMono units :=
  strictMono_nat_of_lt_succ fun p => by
    rw [units_succ]
    exact Nat.lt_add_of_pos_right (Nat.two_pow_pos _)

theorem units_and_gap (small : m < 2 * binade) (normal : k = 0 ∨ binade ≤ m) :
    units (binade * k + m) = m * 2 ^ k ∧ gap (binade * k + m) = 2 ^ k := by
  rcases Nat.lt_or_ge m binade with less | least
  · obtain rfl : k = 0 := normal.resolve_right (Nat.not_le_of_lt less)
    rw [Nat.mul_zero, Nat.zero_add, Nat.pow_zero, Nat.mul_one]
    exact ⟨units_of_le (Nat.le_of_lt less), gap_of_lt less⟩
  · obtain ⟨rest, rfl⟩ := Nat.exists_eq_add_of_le least
    have less : rest < binade := by omega
    have shape : binade * k + (binade + rest) = binade * (k + 1) + rest := by
      rw [Nat.mul_add_one, Nat.add_assoc]
    rw [shape]
    exact ⟨units_normal (Nat.le_of_lt less), gap_normal less⟩

theorem units_floorPattern (n : Nat) :
    units (floorPattern n) ≤ n ∧ n < units (floorPattern n + 1) := by
  generalize exponent : n.log2 - 52 = e
  have pattern : floorPattern n = binade * e + n / 2 ^ e := by
    rw [floorPattern, exponent, Nat.shiftLeft_eq, Nat.shiftRight_eq_div_pow, Nat.mul_comm]
    rfl
  have small : n / 2 ^ e < 2 * binade := by
    rw [Nat.div_lt_iff_lt_mul (Nat.two_pow_pos _)]
    calc n < 2 ^ (n.log2 + 1) := Nat.lt_log2_self
      _ ≤ 2 ^ (53 + e) := Nat.pow_le_pow_right (by decide) (by omega)
      _ = 2 * binade * 2 ^ e := Nat.pow_add ..
  have normal : e = 0 ∨ binade ≤ n / 2 ^ e := by
    rcases Nat.eq_zero_or_pos e with least | large
    · exact .inl least
    · right
      rw [Nat.le_div_iff_mul_le (Nat.two_pow_pos _), binade_eq, ← Nat.pow_add,
        show 52 + e = n.log2 by omega]
      apply Nat.log2_self_le
      rintro rfl
      simp at exponent
      omega
  obtain ⟨value, next⟩ := units_and_gap small normal
  have cut := Nat.div_add_mod' n (2 ^ e)
  have rest := Nat.mod_lt n (Nat.two_pow_pos e)
  rw [units_succ, pattern, value, next]
  omega

/-! ## The nearest pattern -/

/-- How far `x / den` is from a value, in parts of `1 / den` units. -/
def distance (x den p : Nat) : Nat :=
  Nat.dist x (units p * den)

/-- No pattern up to the bound is nearer to `x / den` units, and none as near if it is odd. -/
structure Closest (bound x den p : Nat) : Prop where
  le : p ≤ bound
  nearest : ∀ p' ≤ bound, distance x den p ≤ distance x den p'
  even_of_tie : ∀ p' ≤ bound, p' ≠ p → distance x den p' = distance x den p → p % 2 = 0

theorem nearestPattern_eq (positive : 0 < den) : ∃ b,
    units b * den ≤ x ∧ x < units (b + 1) * den ∧
      (nearestPattern x den = b ∧ x - units b * den ≤ units (b + 1) * den - x ∧
          (x - units b * den = units (b + 1) * den - x → b % 2 = 0) ∨
        nearestPattern x den = b + 1 ∧ units (b + 1) * den - x ≤ x - units b * den ∧
          (x - units b * den = units (b + 1) * den - x → b % 2 = 1)) := by
  generalize floor : floorPattern (x / den) = b
  obtain ⟨above, under⟩ := units_floorPattern (x / den)
  rw [floor, Nat.le_div_iff_mul_le positive] at above
  rw [floor, Nat.div_lt_iff_lt_mul positive] at under
  refine ⟨b, above, under, ?_⟩
  rw [nearestPattern, floor, Nat.sub_mul]
  split_ifs <;> omega

theorem closest_nearestPattern (positive : 0 < den) (below : nearestPattern x den ≤ n) :
    Closest n x den (nearestPattern x den) := by
  obtain ⟨b, above, under, chosen⟩ := nearestPattern_eq (x := x) positive
  have lower {p' : Nat} (less : p' < b) : units p' * den < units b * den :=
    Nat.mul_lt_mul_of_pos_right (units_strictMono less) positive
  have upper {p' : Nat} (more : b + 1 < p') : units (b + 1) * den < units p' * den :=
    Nat.mul_lt_mul_of_pos_right (units_strictMono more) positive
  -- any other pattern lies beyond one of the two
  have far (p' : Nat) : p' = b ∨ p' = b + 1 ∨ units p' * den < units b * den ∨
      units (b + 1) * den < units p' * den := by
    rcases Nat.lt_trichotomy p' b with less | same | more
    · exact .inr (.inr (.inl (lower less)))
    · exact .inl same
    · rcases Nat.lt_or_eq_of_le more with more | same
      · exact .inr (.inr (.inr (upper more)))
      · exact .inr (.inl same.symm)
  generalize nearestPattern x den = c at below chosen
  refine ⟨below, fun p' _ => ?_, fun p' _ other tie => ?_⟩
  · unfold distance Nat.dist
    rcases chosen with ⟨rfl, nearer, -⟩ | ⟨rfl, nearer, -⟩ <;>
      rcases far p' with rfl | rfl | beyond | beyond <;> omega
  · unfold distance Nat.dist at tie
    rcases chosen with ⟨rfl, nearer, even⟩ | ⟨rfl, nearer, odd⟩ <;>
      rcases far p' with rfl | rfl | beyond | beyond <;> omega

theorem closest_bound (positive : 0 < den) (beyond : n < nearestPattern x den) :
    Closest n x den n := by
  obtain ⟨b, above, -, chosen⟩ := nearestPattern_eq (x := x) positive
  have reached : n ≤ b := by omega
  have first : units n * den ≤ units b * den :=
    Nat.mul_le_mul_right den (units_strictMono.monotone reached)
  have lower {p' : Nat} (less : p' < n) : units p' * den < units n * den :=
    Nat.mul_lt_mul_of_pos_right (units_strictMono less) positive
  refine ⟨Nat.le_refl n, fun p' le => ?_, fun p' le other tie => ?_⟩
  · unfold distance Nat.dist
    rcases Nat.lt_or_eq_of_le le with less | rfl
    · have := lower less
      omega
    · omega
  · unfold distance Nat.dist at tie
    have := lower (Nat.lt_of_le_of_ne le other)
    omega

theorem Closest.le_of_closest {bound c c' : Nat} (positive : 0 < den)
    (first : Closest bound x den c) (second : Closest bound x den c') : c' ≤ c := by
  by_contra less
  rw [Nat.not_le] at less
  have tie : distance x den c' = distance x den c :=
    Nat.le_antisymm (second.nearest c first.le) (first.nearest c' second.le)
  have even := first.even_of_tie c' second.le (Nat.ne_of_gt less) tie
  have even' := second.even_of_tie c first.le (Nat.ne_of_lt less) tie.symm
  -- the odd pattern after the first one would be nearer than both
  have between : c + 1 < c' := by omega
  have low : units c * den < units (c + 1) * den :=
    Nat.mul_lt_mul_of_pos_right (units_strictMono (Nat.lt_succ_self c)) positive
  have high : units (c + 1) * den < units c' * den :=
    Nat.mul_lt_mul_of_pos_right (units_strictMono between) positive
  have nearest := first.nearest (c + 1) (Nat.le_trans (Nat.le_of_lt between) second.le)
  unfold distance Nat.dist at tie nearest
  omega

theorem closest_ofRatio (negative : Bool) (num : Nat) (positive : 0 < den) :
    Closest infinity (num <<< 1074) den (ofRatio negative num den).pattern := by
  show Closest infinity (num <<< 1074) den (min (nearestPattern (num <<< 1074) den) infinity)
  generalize num <<< 1074 = x
  rcases Nat.lt_or_ge infinity (nearestPattern x den) with beyond | within
  · rw [Nat.min_eq_right (Nat.le_of_lt beyond)]
    exact closest_bound positive beyond
  · rw [Nat.min_eq_left within]
    exact closest_nearestPattern positive within

/-! ## Rational numbers -/

/-- The absolute value of a double with this pattern; that of infinity is `2 ^ 1024`. -/
def magnitude (p : Nat) : ℚ :=
  units p / 2 ^ 1074

/-- The double is the nearest one to `q`, and of two nearest ones the one with an even pattern. -/
structure Nearest (q : ℚ) (p : Nat) : Prop where
  le : p ≤ infinity
  nearest : ∀ p' ≤ infinity, |q - magnitude p| ≤ |q - magnitude p'|
  even_of_tie : ∀ p' ≤ infinity, p' ≠ p → |q - magnitude p'| = |q - magnitude p| → p % 2 = 0

theorem cast_dist (a b : Nat) : (Nat.dist a b : ℚ) = |(a : ℚ) - b| := by
  rcases Nat.le_total a b with le | le
  · rw [Nat.dist_eq_sub_of_le le, Nat.cast_sub le, abs_of_nonpos, neg_sub]
    exact sub_nonpos.2 (Nat.cast_le.2 le)
  · rw [Nat.dist_eq_sub_of_le_right le, Nat.cast_sub le, abs_of_nonneg]
    exact sub_nonneg.2 (Nat.cast_le.2 le)

theorem abs_sub_eq_dist {u s : Nat} (positive : 0 < den) :
    |(num / den : ℚ) - u / 2 ^ s| = Nat.dist (num <<< s) (u * den) / (den * 2 ^ s) := by
  have denominator : (0 : ℚ) < den * 2 ^ s := by positivity
  have difference : (num / den : ℚ) - u / 2 ^ s =
      ((num <<< s : Nat) - (u * den : Nat)) / (den * 2 ^ s) := by
    rw [Nat.shiftLeft_eq]
    push_cast
    field_simp
  rw [difference, abs_div, abs_of_pos denominator, cast_dist]

theorem nearest_iff (positive : 0 < den) :
    Nearest (num / den) p ↔ Closest infinity (num <<< 1074) den p := by
  have scaled (p : Nat) : |(num / den : ℚ) - magnitude p| =
      distance (num <<< 1074) den p / (den * 2 ^ 1074) := abs_sub_eq_dist positive
  have denominator : (0 : ℚ) < den * 2 ^ 1074 := by positivity
  have le_iff (p p' : Nat) : |(num / den : ℚ) - magnitude p| ≤ |(num / den : ℚ) - magnitude p'| ↔
      distance (num <<< 1074) den p ≤ distance (num <<< 1074) den p' := by
    rw [scaled, scaled, div_le_div_iff_of_pos_right denominator, Nat.cast_le]
  have eq_iff (p p' : Nat) : |(num / den : ℚ) - magnitude p| = |(num / den : ℚ) - magnitude p'| ↔
      distance (num <<< 1074) den p = distance (num <<< 1074) den p' := by
    rw [le_antisymm_iff, le_iff, le_iff, ← le_antisymm_iff]
  constructor
  · rintro ⟨le, nearest, even⟩
    exact ⟨le, fun p' le' => (le_iff _ _).1 (nearest p' le'),
      fun p' le' other tie => even p' le' other ((eq_iff _ _).2 tie)⟩
  · rintro ⟨le, nearest, even⟩
    exact ⟨le, fun p' le' => (le_iff _ _).2 (nearest p' le'),
      fun p' le' other tie => even p' le' other ((eq_iff _ _).1 tie)⟩

theorem nearest_ofRatio_iff (negative : Bool) (num : Nat) (positive : 0 < den) :
    Nearest (num / den) p ↔ p = (ofRatio negative num den).pattern := by
  have closest := closest_ofRatio negative num positive
  rw [nearest_iff positive]
  constructor
  · intro other
    exact Nat.le_antisymm (closest.le_of_closest positive other)
      (other.le_of_closest positive closest)
  · rintro rfl
    exact closest

end FormRules.Proofs.Number
