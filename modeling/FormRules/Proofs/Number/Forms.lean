import FormRules.Proofs.Number.Denotation

/-!
# Forms of numbers

A text is a number in exactly one of three forms, each with or without a minus sign: digits alone,
digits on both sides of a point, or digits behind a point. All three are read as the numbers that
they denote.
-/

namespace FormRules.Proofs.Number
open Matching Reading
open Regex hiding none

inductive NumberForm where
  | integer
  | decimal
  | fraction

inductive Shaped : NumberForm → List Char → Prop where
  | integer {cs : List Char} (filled : cs ≠ []) (digits : Digits cs) : Shaped .integer cs
  | decimal {before after : List Char} (filled : before ≠ []) (whole : Digits before)
      (filled' : after ≠ []) (fraction : Digits after) : Shaped .decimal (before ++ '.' :: after)
  | fraction {after : List Char} (filled : after ≠ []) (digits : Digits after) :
      Shaped .fraction ('.' :: after)

variable {cs : List Char} {form other : NumberForm} {s : String}

theorem unsigned_iff : Unsigned cs ↔ ∃ form, Shaped form cs := by
  constructor
  · intro unsigned
    cases unsigned with
    | whole filled digits => exact ⟨_, .integer filled digits⟩
    | @point before after whole filled fraction =>
      cases before with
      | nil => exact ⟨_, .fraction filled fraction⟩
      | cons c before => exact ⟨_, .decimal (List.cons_ne_nil c before) whole filled fraction⟩
  · rintro ⟨form, shaped⟩
    cases shaped with
    | integer filled digits => exact .whole filled digits
    | decimal _ whole filled fraction => exact .point whole filled fraction
    | fraction filled digits => exact .point (List.forall_mem_nil _) filled digits

/-- The point, and whether anything is in front of it, tell the forms apart. -/
theorem Shaped.signs (shaped : Shaped form cs) :
    ('.' ∈ cs ↔ form ≠ .integer) ∧ (cs.head? = some '.' ↔ form = .fraction) := by
  have point : ¬Char.isDigit '.' = true := by decide
  cases shaped with
  | integer filled digits =>
    have absent : '.' ∉ cs := fun mem => point (digits '.' mem)
    have first : cs.head? ≠ some '.' := fun first => absent (List.mem_of_mem_head? first)
    simp [absent, first]
  | @decimal before after filled whole _ _ =>
    obtain ⟨c, rest, rfl⟩ := List.exists_cons_of_ne_nil filled
    have other : c ≠ '.' := fun same => point (same ▸ whole c List.mem_cons_self)
    simp [other]
  | fraction => simp

theorem Shaped.unique (shaped : Shaped form cs) (shaped' : Shaped other cs) : form = other := by
  obtain ⟨point, first⟩ := shaped.signs
  obtain ⟨point', first'⟩ := shaped'.signs
  rw [point] at point'
  rw [first] at first'
  cases form <;> cases other <;> simp_all

theorem unique_of_signed (signed : Signed (Shaped form) cs) (signed' : Signed (Shaped other) cs) :
    form = other := by
  have noMinus {form : NumberForm} {rest : List Char} (shaped : Shaped form ('-' :: rest)) : False :=
    (unsigned_iff.2 ⟨form, shaped⟩).minus_not_mem List.mem_cons_self
  rcases signed with shaped | ⟨rest, rfl, shaped⟩ <;>
    rcases signed' with shaped' | ⟨rest', same, shaped'⟩
  · exact shaped.unique shaped'
  · exact (noMinus (same ▸ shaped)).elim
  · exact (noMinus shaped').elim
  · cases same
    exact shaped.unique shaped'

theorem integer_accepts_iff :
    Pattern.integer.acceptsChars cs = true ↔ Signed (Shaped .integer) cs := by
  have matched : Pattern.integer.acceptsChars cs = true ↔
      Matches (.cat Pattern.Syntax.minus (plus digit)) cs := acceptsChars_iff_matches fun _ => rfl
  rw [matched, matches_minus]
  apply Signed.congr
  intro ds
  rw [matches_plus_digit]
  constructor
  · exact fun ⟨filled, digits⟩ => .integer filled digits
  · intro shaped
    cases shaped with
    | integer filled digits => exact ⟨filled, digits⟩

theorem decimal_accepts_iff :
    Pattern.decimal.acceptsChars cs = true ↔ Signed (Shaped .decimal) cs := by
  have matched : Pattern.decimal.acceptsChars cs = true ↔
      Matches (.cat Pattern.Syntax.minus (seq [plus digit, Regex.char '.', plus digit])) cs :=
    acceptsChars_iff_matches fun _ => rfl
  rw [matched, matches_minus]
  apply Signed.congr
  intro ds
  simp only [seq, matches_cat, matches_char, matches_plus_digit]
  constructor
  · rintro ⟨before, _, rfl, ⟨filled, whole⟩, _, after, rfl, rfl, filled', fraction⟩
    exact .decimal filled whole filled' fraction
  · intro shaped
    cases shaped with
    | @decimal before after filled whole filled' fraction =>
      exact ⟨before, _, rfl, ⟨filled, whole⟩, ['.'], after, rfl, rfl, filled', fraction⟩

theorem numeric_accepts_iff_form :
    Pattern.numeric.acceptsChars cs = true ↔ ∃ form, Signed (Shaped form) cs := by
  rw [numeric_accepts_iff, Signed.congr fun _ => unsigned_iff]
  constructor
  · rintro (⟨form, shaped⟩ | ⟨rest, rfl, form, shaped⟩)
    · exact ⟨form, .inl shaped⟩
    · exact ⟨form, .inr ⟨rest, rfl, shaped⟩⟩
  · rintro ⟨form, shaped | ⟨rest, rfl, shaped⟩⟩
    · exact .inl ⟨form, shaped⟩
    · exact .inr ⟨rest, rfl, form, shaped⟩

theorem naturalNoZero_accepts_iff : Pattern.naturalNoZero.acceptsChars cs = true ↔
    (cs ≠ [] ∧ Digits cs) ∧ cs.head? ≠ some '0' := by
  have matched : Pattern.naturalNoZero.acceptsChars cs = true ↔
      Matches (.cat (range '1' '9') (.star digit)) cs := acceptsChars_iff_matches fun _ => rfl
  have leading (c : Char) :
      (CharSet.ofRange '1' '9').contains c = true ↔ c.isDigit = true ∧ c ≠ '0' := by
    have zero : c = '0' ↔ c.toNat = 48 := Char.toNat_inj.symm
    rw [contains_ofRange, Char.isDigit_iff_toNat, ne_eq, zero]
    show 49 ≤ c.toNat ∧ c.toNat ≤ 57 ↔ (48 ≤ c.toNat ∧ c.toNat ≤ 57) ∧ ¬c.toNat = 48
    omega
  simp only [matched, matches_cat, range, matches_chars, leading, matches_star_digit]
  constructor
  · rintro ⟨_, rest, rfl, ⟨c, rfl, digit, other⟩, digits⟩
    exact ⟨⟨List.cons_ne_nil _ _, List.forall_mem_cons.2 ⟨digit, digits⟩⟩, by simpa using other⟩
  · rintro ⟨⟨filled, digits⟩, other⟩
    obtain ⟨c, rest, rfl⟩ := List.exists_cons_of_ne_nil filled
    rw [Digits, List.forall_mem_cons] at digits
    exact ⟨[c], rest, rfl, ⟨c, rfl, digits.1, by simpa using other⟩, digits.2⟩

/-- A text is accepted by the pattern of its form. Numbers that start with a point have none. -/
def NumberForm.Fits : NumberForm → String → Prop
  | .integer, s => Pattern.integer.accepts s = true
  | .decimal, s => Pattern.decimal.accepts s = true
  | .fraction, s => ∃ sign ds, s.toList = sign ++ '.' :: ds ∧ (sign = [] ∨ sign = ['-']) ∧
      ds ≠ [] ∧ Digits ds

theorem fits_iff : form.Fits s ↔ Signed (Shaped form) s.toList := by
  cases form with
  | integer => exact integer_accepts_iff
  | decimal => exact decimal_accepts_iff
  | fraction =>
    constructor
    · rintro ⟨_, ds, text, rfl | rfl, filled, digits⟩
      · exact .inl (text ▸ .fraction filled digits)
      · exact .inr ⟨_, text, .fraction filled digits⟩
    · rintro (shaped | ⟨rest, text, shaped⟩)
      · generalize text : s.toList = cs at shaped
        cases shaped with
        | fraction filled digits => exact ⟨[], _, text, .inl rfl, filled, digits⟩
      · cases shaped with
        | fraction filled digits => exact ⟨['-'], _, text, .inr rfl, filled, digits⟩

theorem numeric_iff_existsUnique :
    Pattern.numeric.accepts s = true ↔ ∃! form : NumberForm, form.Fits s := by
  simp only [Pattern.accepts, numeric_accepts_iff_form, fits_iff]
  constructor
  · rintro ⟨form, signed⟩
    exact ⟨form, signed, fun other signed' => unique_of_signed signed' signed⟩
  · rintro ⟨form, signed, -⟩
    exact ⟨form, signed⟩

theorem natural_iff_integer : Pattern.natural.acceptsChars cs = true ↔
    Pattern.integer.acceptsChars cs = true ∧ cs.head? ≠ some '-' := by
  rw [natural_accepts_iff, integer_accepts_iff]
  constructor
  · rintro ⟨filled, digits⟩
    refine ⟨.inl (.integer filled digits), fun first => ?_⟩
    exact absurd (digits '-' (List.mem_of_mem_head? first)) (by decide)
  · rintro ⟨shaped | ⟨rest, rfl, -⟩, other⟩
    · cases shaped with
      | integer filled digits => exact ⟨filled, digits⟩
    · exact absurd rfl other

theorem exists_decimal_of_numeric (accepted : Pattern.numeric.accepts s = true) :
    ∃ d, Decimal.ofChars? s.toList = some d ∧ Denotes s.toList d.negative (absolute d) ∧
      Rule.number? s = some d.toBinary64 ∧
      ∀ raw, Text.strip raw = s.toList → Rule.threshold? raw = some ⟨d.toBinary64, s⟩ := by
  obtain ⟨negative, q, denotes⟩ := exists_denotes accepted
  obtain ⟨-, d, read, rfl, rfl⟩ := denotes.ofChars?
  refine ⟨d, read, denotes, ?_, fun raw text => ?_⟩
  · rw [Rule.number?, if_pos accepted, read, Option.map_some]
  · exact threshold?_eq_some_iff.2 ⟨text.symm, accepted, d, read, rfl⟩

theorem number_patterns_partition (s : String) :
    (Pattern.numeric.accepts s = true ↔ ∃! form : NumberForm, form.Fits s) ∧
    (Pattern.natural.accepts s = true ↔
      Pattern.integer.accepts s = true ∧ s.toList.head? ≠ some '-') ∧
    (Pattern.naturalNoZero.accepts s = true ↔
      Pattern.natural.accepts s = true ∧ s.toList.head? ≠ some '0') ∧
    (Pattern.numeric.accepts s = true → ∃ d, Decimal.ofChars? s.toList = some d ∧
      Denotes s.toList d.negative (absolute d) ∧ Rule.number? s = some d.toBinary64 ∧
      ∀ raw, Text.strip raw = s.toList → Rule.threshold? raw = some ⟨d.toBinary64, s⟩) := by
  refine ⟨numeric_iff_existsUnique, natural_iff_integer, ?_, exists_decimal_of_numeric⟩
  rw [Pattern.accepts, naturalNoZero_accepts_iff, Pattern.accepts, natural_accepts_iff]
  rfl

theorem number_of_minus_half :
    Rule.number? "-.50" = some (Decimal.toBinary64 ⟨true, 50, 2⟩) ∧
      Rule.threshold? " - .50".toList = some ⟨Decimal.toBinary64 ⟨true, 50, 2⟩, "-.50"⟩ := by
  have accepted : Pattern.numeric.accepts "-.50" = true := by decide
  obtain ⟨-, -, -, reads⟩ := number_patterns_partition "-.50"
  obtain ⟨d, read, -, number, threshold⟩ := reads accepted
  have same : Decimal.ofChars? "-.50".toList = some ⟨true, 50, 2⟩ := by decide
  rw [same, Option.some.injEq] at read
  subst read
  exact ⟨number, threshold _ (by decide)⟩

end FormRules.Proofs.Number
