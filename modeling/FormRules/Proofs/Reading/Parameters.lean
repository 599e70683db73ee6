import FormRules.Proofs.Matching.Characters
import FormRules.Proofs.Reading.Tokens

/-!
# Parameters

What each kind of parameter is read as, and that its printed form is read back: length bounds,
thresholds, and words with commas between them.
-/

namespace FormRules.Proofs.Reading
open Text Matching

variable {c : Char} {cs raw part : List Char} {k min max : Nat} {t : Threshold}
  {item : String} {items : List String} {ref : FieldRef} {f : DateFormat}

/-! ## Length bounds -/

theorem plain_of_isDigit (digit : c.isDigit = true) :
    isSpace c = false ∧ Rule.isBracket c = false ∧ c ≠ ',' ∧ c ≠ '|' := by
  have opening : c ≠ '[' := ne_of_isDigit digit rfl
  have closing : c ≠ ']' := ne_of_isDigit digit rfl
  have inner : Rule.isBracket c = false := by simp [Rule.isBracket, opening, closing]
  exact ⟨not_isSpace_of_isDigit digit, inner, ne_of_isDigit digit rfl, ne_of_isDigit digit rfl⟩

theorem bound?_eq_some_iff : Rule.bound? cs = some k ↔
    (cs ≠ [] ∧ ∀ c ∈ cs, c.isDigit = true) ∧ digitsValue cs = k ∧ k < Rule.lengthLimit := by
  rw [← natural_accepts_iff]
  simp only [Rule.bound?, Bool.and_eq_true, decide_eq_true_eq, Option.ite_none_right_eq_some,
    Option.some.injEq]
  constructor
  · rintro ⟨⟨accepted, fits⟩, rfl⟩
    exact ⟨accepted, rfl, fits⟩
  · rintro ⟨accepted, rfl, fits⟩
    exact ⟨⟨accepted, fits⟩, rfl⟩

theorem toList_toString (k : Nat) : (toString k).toList = Nat.toDigits 10 k := by
  rw [Nat.toString_eq_ofList_toDigits, String.toList_ofList]

theorem plain_of_mem_toString (mem : c ∈ (toString k).toList) :
    isSpace c = false ∧ Rule.isBracket c = false ∧ c ≠ ',' ∧ c ≠ '|' := by
  rw [toList_toString] at mem
  exact plain_of_isDigit (Nat.isDigit_of_mem_toDigits (by decide) (by decide) mem)

theorem strip_toString (k : Nat) : strip (toString k).toList = (toString k).toList :=
  strip_eq_self fun _ mem => (plain_of_mem_toString mem).1

theorem bound?_toString (fits : k < Rule.lengthLimit) :
    Rule.bound? (toString k).toList = some k := by
  rw [bound?_eq_some_iff, toList_toString]
  refine ⟨⟨Nat.toDigits_ne_nil, fun c mem => ?_⟩, Nat.ofDigitChars_ten_toDigits, fits⟩
  exact Nat.isDigit_of_mem_toDigits (by decide) (by decide) mem

theorem lengthBound?_toString (fits : k < Rule.lengthLimit) :
    Rule.lengthBound? (toString k).toList = some k := by
  rw [Rule.lengthBound?, strip_toString, bound?_toString fits]

theorem lengthRange?_eq_some_iff : Rule.lengthRange? raw = some (min, max) ↔
    ∃ first second, strip raw = first ++ ',' :: second ∧
      Rule.bound? first = some min ∧ Rule.bound? second = some max ∧ min < max := by
  simp only [Rule.lengthRange?, Option.bind_eq_bind, Option.bind_eq_some_iff, Prod.exists,
    Option.ite_none_right_eq_some, Option.some.injEq, Prod.mk.injEq]
  constructor
  · rintro ⟨first, second, cut, a, low, b, high, increases, rfl, rfl⟩
    exact ⟨first, second, (splitOnce?_eq_some_iff.1 cut).1, low, high, increases⟩
  · rintro ⟨first, second, cut, low, high, increases⟩
    have whole : ',' ∉ first := by
      intro comma
      exact (plain_of_isDigit ((bound?_eq_some_iff.1 low).1.2 ',' comma)).2.2.1 rfl
    exact ⟨first, second, splitOnce?_eq_some_iff.2 ⟨cut, whole⟩, min, low, max, high, increases,
      rfl, rfl⟩

theorem lengthRange?_toString (increases : min < max) (fits : max < Rule.lengthLimit) :
    Rule.lengthRange? ((toString min).toList ++ ',' :: (toString max).toList) =
      some (min, max) := by
  rw [lengthRange?_eq_some_iff]
  refine ⟨_, _, ?_, bound?_toString (increases.trans fits), bound?_toString fits, increases⟩
  apply strip_eq_self
  intro c mem
  rcases List.mem_append.1 mem with mem | mem
  · exact (plain_of_mem_toString mem).1
  · rcases List.mem_cons.1 mem with rfl | mem
    · decide
    · exact (plain_of_mem_toString mem).1

/-! ## Thresholds -/

structure Numeral (t : Threshold) : Prop where
  numeric : Pattern.numeric.accepts t.text = true
  value : ∃ d, Decimal.ofChars? t.text.toList = some d ∧ t.value = d.toBinary64

theorem threshold?_eq_some_iff :
    Rule.threshold? raw = some t ↔ t.text.toList = strip raw ∧ Numeral t := by
  simp only [Rule.threshold?, Option.bind_eq_bind, Option.ite_none_right_eq_some,
    Option.bind_eq_some_iff, Option.some.injEq]
  constructor
  · rintro ⟨accepted, d, read, rfl⟩
    refine ⟨String.toList_ofList, ?_, d, ?_, rfl⟩
    · rw [Pattern.accepts, String.toList_ofList]
      exact accepted
    · rw [String.toList_ofList]
      exact read
  · rintro ⟨text, accepted, d, read, value⟩
    rw [Pattern.accepts, text] at accepted
    rw [text] at read
    refine ⟨accepted, d, read, ?_⟩
    rw [← text, String.ofList_toList, ← value]

theorem Numeral.plain (numeral : Numeral t) (mem : c ∈ t.text.toList) :
    isSpace c = false ∧ Rule.isBracket c = false ∧ c ≠ ',' ∧ c ≠ '|' := by
  rcases mem_of_numeric numeral.numeric mem with rfl | rfl | digit
  · decide
  · decide
  · exact plain_of_isDigit digit

theorem Numeral.threshold?_text (numeral : Numeral t) :
    Rule.threshold? t.text.toList = some t := by
  rw [threshold?_eq_some_iff, strip_eq_self fun _ mem => (numeral.plain mem).1]
  exact ⟨rfl, numeral⟩

/-! ## Words -/

structure Word (s : String) : Prop where
  trimmed : trim s.toList = s.toList
  plain : ∀ c ∈ s.toList, Rule.isBracket c = false ∧ c ≠ ','

theorem word_of_mem_splitOn (plain : ∀ c ∈ raw, Rule.isBracket c = false)
    (mem : part ∈ splitOn ',' raw) : Word (String.ofList (trim part)) where
  trimmed := by rw [String.toList_ofList, trim_trim]
  plain c inside := by
    rw [String.toList_ofList] at inside
    have kept := mem_of_mem_splitOn mem (mem_of_mem_trim inside)
    exact ⟨plain c kept.1, kept.2⟩

theorem map_trim_splitOn_intercalate (some : items ≠ []) (words : ∀ item ∈ items, Word item) :
    (splitOn ',' ([','].intercalate (items.map String.toList))).map trim =
      items.map String.toList := by
  have whole : ∀ part ∈ items.map String.toList, ',' ∉ part := by
    intro part mem
    obtain ⟨item, itemMem, rfl⟩ := List.mem_map.1 mem
    exact fun comma => ((words item itemMem).plain ',' comma).2 rfl
  rw [splitOn_intercalate whole (by simpa using some), List.map_map]
  apply List.map_congr_left
  intro item mem
  exact (words item mem).trimmed

theorem map_toList_ofList (parts : List (List Char)) :
    (parts.map String.ofList).map String.toList = parts := by
  simp [List.map_map, Function.comp_def]

theorem map_ofList_toList (items : List String) :
    (items.map String.toList).map String.ofList = items := by
  simp [List.map_map, Function.comp_def]

theorem listItems?_eq_some_iff : Rule.listItems? raw = some items ↔
    (splitOn ',' raw).map trim = items.map String.toList ∧ ∃ item ∈ items, item ≠ "" := by
  have blank (parts : List (List Char)) : parts.all List.isEmpty = false ↔
      ∃ item ∈ parts.map String.ofList, item ≠ "" := by
    simp [List.all_eq_false]
  simp only [Rule.listItems?]
  constructor
  · intro found
    split at found
    · cases found
    · rename_i filled
      cases found
      exact ⟨(map_toList_ofList _).symm, (blank _).1 (Bool.eq_false_iff.2 filled)⟩
  · rintro ⟨parts, filled⟩
    have items_eq : ((splitOn ',' raw).map trim).map String.ofList = items := by
      rw [parts, map_ofList_toList]
    rw [← items_eq, ← blank] at filled
    simp [filled, ← items_eq]

theorem fieldRef?_eq_some_iff : Rule.fieldRef? raw = some ref ↔
    (splitOn ',' raw).map trim = [ref.target, ref.label].map String.toList ∧
      ref.target ≠ "" ∧ ref.label ≠ "" := by
  unfold Rule.fieldRef?
  constructor
  · intro found
    split at found
    · rename_i target label parts
      split at found
      · cases found
      · rename_i filled
        cases found
        rw [Bool.or_eq_true, not_or] at filled
        simpa [parts] using filled
    · cases found
  · rintro ⟨parts, target, label⟩
    simp only [List.map_cons, List.map_nil] at parts
    simp [parts, target, label]

theorem ofChars?_date (f : DateFormat) : DateFormat.ofChars?
    (strip (f.order.name.toList ++ ',' :: f.separator.name.toList)) = some f := by
  obtain ⟨order, separator⟩ := f
  cases order <;> cases separator <;> decide

end FormRules.Proofs.Reading
