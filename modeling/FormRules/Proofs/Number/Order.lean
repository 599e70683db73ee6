import FormRules.Proofs.Number.Denotation

/-!
# Order

Rounding to the nearest double keeps the order of numbers, as far as it keeps them apart. So doubles
that compare as less or greater come from texts that denote a lesser or a greater number.
-/

namespace FormRules.Proofs.Number
open Binary64 Matching

variable {p p' : Nat} {q x y : ℚ} {d e : Decimal} {text : String}

theorem magnitude_strictMono : StrictMono magnitude := by
  intro p p' less
  have units : (units p : ℚ) < units p' := Nat.cast_lt.2 (units_strictMono less)
  exact div_lt_div_of_pos_right units (by positivity)

theorem Nearest.le_two_mul (nearest : Nearest q p) (less : p' < p) :
    magnitude p' + magnitude p ≤ 2 * q := by
  have order := magnitude_strictMono less
  have near := nearest.nearest p' (Nat.le_trans (Nat.le_of_lt less) nearest.le)
  rw [abs_le] at near
  rcases abs_cases (q - magnitude p') with ⟨distance, -⟩ | ⟨distance, -⟩ <;> linarith

theorem Nearest.two_mul_le (nearest : Nearest q p) (more : p < p') (le : p' ≤ infinity) :
    2 * q ≤ magnitude p + magnitude p' := by
  have order := magnitude_strictMono more
  have near := nearest.nearest p' le
  rw [abs_le] at near
  rcases abs_cases (q - magnitude p') with ⟨distance, -⟩ | ⟨distance, -⟩ <;> linarith

theorem nearest_pattern (d : Decimal) : Nearest (absolute d) d.toBinary64.pattern :=
  nearest_toBinary64_iff.2 rfl

theorem pattern_mono (le : absolute d ≤ absolute e) :
    d.toBinary64.pattern ≤ e.toBinary64.pattern := by
  by_contra reversed
  rw [Nat.not_le] at reversed
  have below := (nearest_pattern d).le_two_mul reversed
  have above := (nearest_pattern e).two_mul_le reversed (nearest_pattern d).le
  -- both numbers are half way between the two doubles, and one number has one nearest double
  have same : absolute d = absolute e := by linarith
  have again := nearest_pattern d
  rw [same, nearest_toBinary64_iff] at again
  exact absurd again (Nat.ne_of_gt reversed)

theorem absolute_nonneg (d : Decimal) : 0 ≤ absolute d := by
  unfold absolute
  positivity

theorem pattern_of_zero (zero : absolute d = 0) : d.toBinary64.pattern = 0 := by
  have least : absolute d ≤ absolute ⟨false, 0, 0⟩ := by rw [zero, absolute]; simp
  exact Nat.le_zero.1 (pattern_mono least)

def signed (negative : Bool) (q : ℚ) : ℚ :=
  if negative then -q else q

def value (d : Decimal) : ℚ :=
  signed d.negative (absolute d)

/-- The two zeros have one rank, so the sign of a zero does not count. -/
theorem rank_mono (le : value d ≤ value e) : d.toBinary64.rank ≤ e.toBinary64.rank := by
  have rank (d : Decimal) : d.toBinary64.rank =
      if d.negative then -(d.toBinary64.pattern : Int) else d.toBinary64.pattern := rfl
  have first := absolute_nonneg d
  have second := absolute_nonneg e
  rw [rank d, rank e]
  unfold value signed at le
  split_ifs at le ⊢
  · have reversed := pattern_mono (neg_le_neg_iff.1 le)
    omega
  · omega
  · have zero : absolute d = 0 := by linarith
    have zero' : absolute e = 0 := by linarith
    rw [pattern_of_zero zero, pattern_of_zero zero']
    rfl
  · exact Int.ofNat_le.2 (pattern_mono le)

theorem value_lt_of_rank_lt (less : d.toBinary64.rank < e.toBinary64.rank) : value d < value e := by
  by_contra reversed
  rw [not_lt] at reversed
  exact absurd less (Int.not_lt.2 (rank_mono reversed))

def DenotesNumber (text : String) (x : ℚ) : Prop :=
  ∃ negative q, Denotes text.toList negative q ∧ x = signed negative q

theorem exists_decimal (accepted : Pattern.numeric.accepts text = true) :
    ∃ d, Decimal.ofChars? text.toList = some d ∧ ∀ x, DenotesNumber text x ↔ x = value d := by
  obtain ⟨negative, q, denotes⟩ := exists_denotes accepted
  obtain ⟨-, d, read, rfl, rfl⟩ := denotes.ofChars?
  refine ⟨d, read, fun x => ⟨?_, fun same => ⟨_, _, denotes, same⟩⟩⟩
  rintro ⟨negative, q, other, rfl⟩
  obtain ⟨-, d', read', rfl, rfl⟩ := other.ofChars?
  obtain rfl : d = d' := Option.some.inj (read.symm.trans read')
  rfl

end FormRules.Proofs.Number
