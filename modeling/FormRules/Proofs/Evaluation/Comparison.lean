import FormRules.Proofs.Evaluation.Violation
import FormRules.Proofs.Number.Order
import FormRules.Proofs.Reading.WellFormed

/-!
# Numeric comparisons

A value and a threshold are texts of any length, compared as doubles. The verdicts never go against
the order of the numbers that the two texts denote: what differs by less than doubles can tell is
taken for equal, and nothing else.
-/

namespace FormRules.Proofs.Evaluation
open Number Reading Matching

variable {f : Field} {s : Snapshot} {c : Comparison} {t : Threshold} {d e : Decimal} {x y : ℚ}

abbrev Obeys (f : Field) (s : Snapshot) (c : Comparison) (t : Threshold) : Prop :=
  f.violation? s (.comparison c t) = none

theorem violation?_of_not_numeric (filled : valueOf f s ≠ "")
    (refused : Pattern.numeric.accepts (valueOf f s) = false) :
    f.violation? s (.comparison c t) = some (f.notANumber c) := by
  apply violation?_of_violates
  apply Violates.notANumber filled
  rw [← Option.not_isSome_iff_eq_none, isSome_number?_iff, refused]
  exact Bool.false_ne_true

theorem number?_eq_some (accepted : Pattern.numeric.accepts (valueOf f s) = true)
    (read : Decimal.ofChars? (valueOf f s).toList = some d) :
    Rule.number? (valueOf f s) = some d.toBinary64 := by
  rw [Rule.number?, if_pos accepted, read]
  rfl

theorem violation?_of_number (filled : valueOf f s ≠ "")
    (read : Rule.number? (valueOf f s) = some d.toBinary64) :
    f.violation? s (.comparison c t) =
      if c.holds d.toBinary64 t.value then none else some ((Rule.comparison c t).violation f) := by
  split
  · rename_i holds
    rw [Option.eq_none_iff_forall_ne_some]
    intro v violated
    cases violates_of_violation? violated with
    | notANumber _ unread =>
      rw [read] at unread
      cases unread
    | comparison _ read' fails =>
      rw [read] at read'
      cases read'
      rw [holds] at fails
      cases fails
    | other _ fails => cases fails
  · rename_i fails
    exact violation?_of_violates (.comparison filled read (Bool.eq_false_iff.2 fails))

/-- How the comparisons judge a value that denotes `x`, for a threshold that denotes `y`. -/
structure JudgedByOrder (f : Field) (s : Snapshot) (t : Threshold) (x y : ℚ) : Prop where
  key : ∀ c v, f.violation? s (.comparison c t) = some v → v.key = .rule (.comparison c)
  greater_or_not : Obeys f s .greaterThan t ↔ ¬Obeys f s .lessThanEqualTo t
  less_or_not : Obeys f s .lessThan t ↔ ¬Obeys f s .greaterThanEqualTo t
  atLeast : y ≤ x → Obeys f s .greaterThanEqualTo t
  atMost : x ≤ y → Obeys f s .lessThanEqualTo t
  greater : Obeys f s .greaterThan t → y < x
  less : Obeys f s .lessThan t → x < y

theorem judgedByOrder (filled : valueOf f s ≠ "")
    (read : Rule.number? (valueOf f s) = some d.toBinary64) (threshold : t.value = e.toBinary64) :
    JudgedByOrder f s t (value d) (value e) := by
  have obeys (c : Comparison) : Obeys f s c t ↔ c.holds d.toBinary64 e.toBinary64 = true := by
    rw [Obeys, violation?_of_number filled read, threshold]
    split <;> simp_all
  refine { key := ?_, greater_or_not := ?_, less_or_not := ?_, atLeast := ?_, atMost := ?_,
           greater := ?_, less := ?_ }
  · intro c v violated
    rw [violation?_of_number filled read] at violated
    split at violated
    · cases violated
    · cases violated
      rfl
  · rw [obeys, obeys, Comparison.holds, Comparison.holds, decide_eq_true_iff, decide_eq_true_iff]
    exact Int.not_le.symm
  · rw [obeys, obeys, Comparison.holds, Comparison.holds, decide_eq_true_iff, decide_eq_true_iff]
    exact Int.not_le.symm
  · intro order
    exact (obeys _).2 (decide_eq_true (rank_mono order))
  · intro order
    exact (obeys _).2 (decide_eq_true (rank_mono order))
  · intro obeyed
    exact value_lt_of_rank_lt (of_decide_eq_true ((obeys _).1 obeyed))
  · intro obeyed
    exact value_lt_of_rank_lt (of_decide_eq_true ((obeys _).1 obeyed))

theorem comparisons_follow_exact_order {token : String} {declared : Comparison} {t : Threshold}
    (read : Rule.ofText token = .ok (.comparison declared t)) {f : Field} {s : Snapshot}
    (filled : valueOf f s ≠ "") :
    (Pattern.numeric.accepts (valueOf f s) = false → ∀ c, ∃ v,
      f.violation? s (.comparison c t) = some v ∧ v.key = .notANumber) ∧
    (Pattern.numeric.accepts (valueOf f s) = true → ∃ x y,
      (∀ x', DenotesNumber (valueOf f s) x' ↔ x' = x) ∧
        (∀ y', DenotesNumber t.text y' ↔ y' = y) ∧ JudgedByOrder f s t x y) := by
  constructor
  · intro refused c
    exact ⟨_, violation?_of_not_numeric filled refused, rfl⟩
  · intro accepted
    obtain ⟨d, decimal, denotes⟩ := exists_decimal accepted
    cases wellFormed_of_ofChars read with
    | comparison numeral =>
      obtain ⟨e, decimal', denotes'⟩ := exists_decimal numeral.numeric
      obtain ⟨e', again, nearest⟩ := numeral.value
      obtain rfl : e' = e := Option.some.inj (again.symm.trans decimal')
      have number := number?_eq_some accepted decimal
      exact ⟨value d, value e', denotes, denotes', judgedByOrder filled number nearest⟩

/-- The double nearest to the number of the text is one less. -/
def halfWay : Threshold where
  value := ⟨false, 0x4340000000000000, by decide⟩
  text := "9007199254740993"

def distance : Field where
  id := "distance"
  label := "Distance"
  kind := .text
  declaredGroup := none
  rules := [.comparison .greaterThan halfWay]

def shorter : Snapshot where
  field _ := some { value := " 9007199254740992" }
  group _ := []

theorem compared_within_a_double :
    Rule.ofText "greater_than[9007199254740993]" = .ok (.comparison .greaterThan halfWay) ∧
      valueOf distance shorter ≠ "" ∧ ∃ x y, x < y ∧ JudgedByOrder distance shorter halfWay x y ∧
        ¬Obeys distance shorter .greaterThan halfWay ∧
        Obeys distance shorter .lessThanEqualTo halfWay := by
  have read : Rule.ofText "greater_than[9007199254740993]" =
      .ok (.comparison .greaterThan halfWay) := by decide +kernel
  have filled : valueOf distance shorter ≠ "" := by decide +kernel
  have accepted : Pattern.numeric.accepts (valueOf distance shorter) = true := by decide +kernel
  obtain ⟨x, y, value, threshold, judged⟩ := (comparisons_follow_exact_order read filled).2 accepted
  have number {text : String} (filled : text.toList ≠ [])
      (digits : text.toList.all Char.isDigit = true) :
      DenotesNumber text (digitsValue text.toList) :=
    ⟨false, _, .whole filled (List.all_eq_true.1 digits), rfl⟩
  have least : x = (9007199254740992 : Nat) :=
    ((value _).1 (number (by decide +kernel) (by decide +kernel))).symm.trans
      (congrArg Nat.cast (by decide +kernel))
  have greatest : y = (9007199254740993 : Nat) :=
    ((threshold _).1 (number (by decide +kernel) (by decide +kernel))).symm.trans
      (congrArg Nat.cast (by decide +kernel))
  have order : x < y := by
    rw [least, greatest]
    exact Nat.cast_lt.2 (by decide)
  have notGreater : ¬Obeys distance shorter .greaterThan halfWay := fun obeyed =>
    absurd (judged.greater obeyed) order.asymm
  exact ⟨read, filled, x, y, order, judged, notGreater, judged.atMost order.le⟩

end FormRules.Proofs.Evaluation
