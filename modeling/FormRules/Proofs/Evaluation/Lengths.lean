import FormRules.Proofs.Evaluation.Conjunction
import FormRules.Proofs.Matching.Octets
import FormRules.Proofs.Reading.WellFormed

/-!
# Length bounds

A bound is a number of any length with any number of zeros in front, and white space anywhere in it
is passed over. It is read as the number it denotes or refused, and values are measured against that
number.
-/

namespace FormRules.Proofs.Evaluation
open Text Matching Reading

variable {cs raw : List Char} {n : Nat} {name : RuleName} {p : String} {r : Rule}
  {f : Field} {s : Snapshot} {c : Catalog}

/-! ## Numbers as texts -/

def Written (n : Nat) (cs : List Char) : Prop :=
  ∃ zeros, cs = List.replicate zeros '0' ++ numeral n

theorem digitsValue_zeros (k : Nat) : digitsValue (List.replicate k '0') = 0 := by
  induction k with
  | zero => rfl
  | succ k ih =>
    rw [List.replicate_succ', digitsValue_append_singleton, ih]
    rfl

theorem Written.digits (written : Written n cs) : cs ≠ [] ∧ Digits cs := by
  obtain ⟨zeros, rfl⟩ := written
  constructor
  · exact List.append_ne_nil_of_right_ne_nil _ Nat.toDigits_ne_nil
  · apply List.forall_mem_append.2 ⟨_, digits_toDigits n⟩
    intro d mem
    rw [List.eq_of_mem_replicate mem]
    rfl

theorem Written.value (written : Written n cs) : digitsValue cs = n := by
  obtain ⟨zeros, rfl⟩ := written
  rw [digitsValue_append, digitsValue_zeros, digitsValue_numeral, Nat.zero_mul, Nat.zero_add]

theorem written_digitsValue (filled : cs ≠ []) (digits : Digits cs) :
    Written (digitsValue cs) cs := by
  induction cs with
  | nil => exact absurd rfl filled
  | cons d cs ih =>
    obtain ⟨same, bound⟩ := digits.eq_padded
    rw [Digits, List.forall_mem_cons] at digits
    by_cases short : cs = []
    · subst short
      refine ⟨0, same.trans ?_⟩
      exact (numeral_eq_padded bound (.inl rfl)).symm
    · by_cases zero : d = '0'
      · obtain ⟨zeros, rest⟩ := ih short digits.2
        refine ⟨zeros + 1, ?_⟩
        rw [digitsValue_cons, zero, Nat.sub_self, Nat.zero_mul, Nat.zero_add,
          List.replicate_succ, List.cons_append, ← rest]
      · refine ⟨0, same.trans ?_⟩
        exact (numeral_eq_padded bound (.inr (pow_le_digitsValue digits.1 zero))).symm

theorem bound?_eq_some_iff_written :
    Rule.bound? cs = some n ↔ Written n cs ∧ n < 2 ^ 64 := by
  have limit : Rule.lengthLimit = 2 ^ 64 := rfl
  rw [bound?_eq_some_iff, limit]
  constructor
  · rintro ⟨⟨filled, digits⟩, rfl, fits⟩
    exact ⟨written_digitsValue filled digits, fits⟩
  · rintro ⟨written, fits⟩
    exact ⟨written.digits, written.value, fits⟩

/-! ## Reading -/

def lengthRules : List RuleName :=
  [.minLength, .maxLength, .exactLength, .rangeLength]

/-- The rule that the name and the parameter of a length rule stand for. -/
inductive Declares (raw : List Char) : RuleName → Rule → Prop where
  | minLength {k} (written : Written k (strip raw)) (fits : k < 2 ^ 64) :
      Declares raw .minLength (.minLength k)
  | maxLength {k} (written : Written k (strip raw)) (fits : k < 2 ^ 64) :
      Declares raw .maxLength (.maxLength k)
  | exactLength {k} (written : Written k (strip raw)) (fits : k < 2 ^ 64) :
      Declares raw .exactLength (.exactLength k)
  | rangeLength {first second min max} (cut : strip raw = first ++ ',' :: second)
      (low : Written min first) (high : Written max second) (increases : min < max)
      (fits : max < 2 ^ 64) : Declares raw .rangeLength (.rangeLength min max)

theorem orInvalid_bound_iff {rule : Nat → Rule} :
    Rule.orInvalid raw ((Rule.lengthBound? raw).map rule) = .ok r ↔
      ∃ k, (Written k (strip raw) ∧ k < 2 ^ 64) ∧ rule k = r := by
  rw [orInvalid_eq_ok_iff, Option.map_eq_some_iff]
  simp only [Rule.lengthBound?, bound?_eq_some_iff_written]

theorem orInvalid_range_iff :
    Rule.orInvalid raw ((Rule.lengthRange? raw).map fun (min, max) => .rangeLength min max) =
        .ok r ↔ Declares raw .rangeLength r := by
  rw [orInvalid_eq_ok_iff, Option.map_eq_some_iff]
  constructor
  · rintro ⟨⟨min, max⟩, read, rfl⟩
    obtain ⟨first, second, cut, low, high, increases⟩ := lengthRange?_eq_some_iff.1 read
    rw [bound?_eq_some_iff_written] at low high
    exact .rangeLength cut low.1 high.1 increases high.2
  · intro declares
    cases declares with
    | rangeLength cut low high increases fits =>
      refine ⟨_, lengthRange?_eq_some_iff.2 ⟨_, _, cut, ?_, ?_, increases⟩, rfl⟩
      · exact bound?_eq_some_iff_written.2 ⟨low, increases.trans fits⟩
      · exact bound?_eq_some_iff_written.2 ⟨high, fits⟩

theorem ofParam_eq_ok_iff (known : name ∈ lengthRules) :
    Rule.ofParam raw name = .ok r ↔ Declares raw name r := by
  simp only [lengthRules, List.mem_cons, List.not_mem_nil, or_false] at known
  rcases known with rfl | rfl | rfl | rfl
  · refine orInvalid_bound_iff.trans ⟨?_, ?_⟩
    · rintro ⟨k, ⟨written, fits⟩, rfl⟩
      exact .minLength written fits
    · intro declares
      cases declares with
      | minLength written fits => exact ⟨_, ⟨written, fits⟩, rfl⟩
  · refine orInvalid_bound_iff.trans ⟨?_, ?_⟩
    · rintro ⟨k, ⟨written, fits⟩, rfl⟩
      exact .maxLength written fits
    · intro declares
      cases declares with
      | maxLength written fits => exact ⟨_, ⟨written, fits⟩, rfl⟩
  · refine orInvalid_bound_iff.trans ⟨?_, ?_⟩
    · rintro ⟨k, ⟨written, fits⟩, rfl⟩
      exact .exactLength written fits
    · intro declares
      cases declares with
      | exactLength written fits => exact ⟨_, ⟨written, fits⟩, rfl⟩
  · exact orInvalid_range_iff

theorem eq_of_orInvalid_error {read : Option Rule} {cause : RuleError}
    (refused : Rule.orInvalid raw read = .error cause) :
    cause = .invalidParam (String.ofList (trim raw)) := by
  cases read with
  | none => exact (Except.error.inj refused).symm
  | some r => cases refused

theorem eq_of_ofParam_error (known : name ∈ lengthRules) {cause : RuleError}
    (refused : Rule.ofParam raw name = .error cause) :
    cause = .invalidParam (String.ofList (trim raw)) := by
  simp only [lengthRules, List.mem_cons, List.not_mem_nil, or_false] at known
  rcases known with rfl | rfl | rfl | rfl <;> exact eq_of_orInvalid_error refused

def bracketed (name : RuleName) (p : String) : String :=
  name.name ++ "[" ++ p ++ "]"

theorem ofText_bracketed (plain : ∀ c ∈ p.toList, Rule.isBracket c = false) :
    Rule.ofText (bracketed name p) = Rule.ofParam p.toList name := by
  have text : (bracketed name p).toList = name.name.toList ++ '[' :: (p.toList ++ [']']) := by
    simp [bracketed, String.toList_append]
  rw [Rule.ofText, text, ofChars_bracketed plain]

/-! ## Evaluating -/

def Allows (length : Nat) : Rule → Prop
  | .minLength k => k ≤ length
  | .maxLength k => length ≤ k
  | .exactLength k => length = k
  | .rangeLength min max => min ≤ length ∧ length ≤ max
  | _ => True

theorem violation?_eq_none_iff_holds (known : r.name ∈ lengthRules) (filled : valueOf f s ≠ "") :
    f.violation? s r = none ↔ r.holds s (stateOf f s).value (valueOf f s) = true := by
  constructor
  · intro obeyed
    by_contra fails
    rw [violation?_of_violates (.other filled (Bool.eq_false_iff.2 fails))] at obeyed
    cases obeyed
  · intro holds
    rw [Option.eq_none_iff_forall_ne_some]
    intro v violated
    cases violates_of_violation? violated with
    | other _ fails =>
      rw [holds] at fails
      cases fails
    | _ => simp [Rule.name, lengthRules] at known

theorem holds_iff_allows (known : r.name ∈ lengthRules) (raw value : String) :
    r.holds s raw value = true ↔ Allows value.length r := by
  cases r with
  | minLength k => simp [Rule.holds, Allows]
  | maxLength k => simp [Rule.holds, Allows]
  | exactLength k => simp [Rule.holds, Allows]
  | rangeLength min max => simp [Rule.holds, Allows]
  | _ => simp [Rule.name, lengthRules] at known

theorem Declares.name_eq (declares : Declares raw name r) : r.name = name := by
  cases declares <;> rfl

theorem passes_iff_allows (known : r.name ∈ lengthRules) (filled : valueOf f s ≠ "") :
    Passes f s c r ↔ Allows (valueOf f s).length r := by
  rw [passes_iff, violation?_eq_none_iff_holds known filled, holds_iff_allows known]

/-- A length rule is read exactly if its parameter, without white space, is one number below 2^64,
or two that increase; its parameter is invalid otherwise. Values are then measured against these
numbers. -/
theorem length_rules_read_exactly {name : RuleName} (known : name ∈ lengthRules) {p : String}
    (plain : ∀ c ∈ p.toList, Rule.isBracket c = false) :
    (∀ r, Rule.ofText (bracketed name p) = .ok r ↔ Declares p.toList name r) ∧
    (∀ e, Rule.ofText (bracketed name p) = .error e → e = .invalidParam (trimmed p)) ∧
    ∀ r, Rule.ofText (bracketed name p) = .ok r → ∀ f s c, valueOf f s ≠ "" →
      (Passes f s c r ↔ Allows (valueOf f s).length r) := by
  rw [ofText_bracketed plain]
  refine ⟨fun r => ofParam_eq_ok_iff known, fun e => eq_of_ofParam_error known, ?_⟩
  intro r read f s c filled
  have declares := (ofParam_eq_ok_iff known).1 read
  exact passes_iff_allows (declares.name_eq ▸ known) filled

def code : Field where
  id := "code"
  label := "Code"
  kind := .text
  declaredGroup := none
  rules := []

def entered (value : String) : Snapshot where
  field _ := some { value }
  group _ := []

theorem bounds_at_the_limit :
    Rule.ofText (bracketed .minLength " 0018446744073709551 615") =
        .ok (.minLength 18446744073709551615) ∧
      Rule.ofText (bracketed .maxLength "18446744073709551616") =
        .error (.invalidParam "18446744073709551616") ∧
      Rule.ofText (bracketed .rangeLength "2,\u20098") = .ok (.rangeLength 2 8) ∧
      Passes code (entered " äö ") .english (.rangeLength 2 8) ∧
      ¬Passes code (entered " ä ") .english (.rangeLength 2 8) := by
  have digits {n : Nat} {cs : List Char} (filled : cs ≠ [])
      (digits : cs.all Char.isDigit = true) (value : digitsValue cs = n) : Written n cs := by
    rw [← value]
    exact written_digitsValue filled (List.all_eq_true.1 digits)
  obtain ⟨least, -, -⟩ := @length_rules_read_exactly .minLength (by decide)
    " 0018446744073709551 615" (by simp [Rule.isBracket])
  obtain ⟨most, refused, -⟩ := @length_rules_read_exactly .maxLength (by decide)
    "18446744073709551616" (by simp [Rule.isBracket])
  obtain ⟨range, -, passes⟩ := @length_rules_read_exactly .rangeLength (by decide)
    "2,\u20098" (by simp [Rule.isBracket])
  have low : Written 2 ['2'] := digits (by decide) (by decide) rfl
  have high : Written 8 ['8'] := digits (by decide) (by decide) rfl
  have read : Rule.ofText (bracketed .rangeLength "2,\u20098") = .ok (.rangeLength 2 8) :=
    (range _).2 (.rangeLength (by decide) low high (by decide) (by decide))
  refine ⟨?_, ?_, read, ?_, ?_⟩
  · exact (least _).2 (.minLength (digits (by decide) (by decide) rfl) (by decide))
  · cases result : Rule.ofText (bracketed .maxLength "18446744073709551616") with
    | error e => exact congrArg Except.error (refused e result)
    | ok r =>
      cases (most r).1 result with
      | maxLength written fits =>
        rw [← written.value] at fits
        exact absurd fits (by decide)
  · exact (passes _ read code _ _ (by decide)).2 (by simp only [Allows]; decide)
  · rw [passes _ read code _ _ (by decide)]
    simp only [Allows]
    decide

end FormRules.Proofs.Evaluation
