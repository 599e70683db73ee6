import FormRules.Evaluation
import FormRules.Proofs.Matching.Characters
import Mathlib.Data.List.TakeWhile

/-!
# Texts of numbers

A text fits `numeric` if it is a number in decimal notation, perhaps with a minus sign. All of these
texts are read as decimals, so whether a value is a number is decided by the pattern alone.
-/

namespace FormRules.Proofs.Matching
open Regex

variable {r : Regex} {c : Char} {cs before after : List Char} {negative : Bool} {value : String}

theorem matches_char : Matches (Regex.char c) cs ↔ cs = [c] := by
  rw [Regex.char, matches_chars]
  constructor
  · rintro ⟨d, rfl, contains⟩
    rw [contains_single.1 contains]
  · rintro rfl
    exact ⟨c, rfl, contains_single.2 rfl⟩

theorem matches_opt : Matches (opt r) cs ↔ Matches r cs ∨ cs = [] := by
  rw [opt, matches_alt, matches_empty]

def Digits (cs : List Char) : Prop :=
  ∀ c ∈ cs, c.isDigit = true

theorem digits_toDigits (n : Nat) : Digits (Nat.toDigits 10 n) := fun _ mem =>
  Nat.isDigit_of_mem_toDigits (by decide) (by decide) mem

theorem matches_star_digit : Matches (.star digit) cs ↔ Digits cs := by
  rw [digit, range, matches_star_chars]
  simp only [contains_digits, Digits]

theorem matches_plus_digit : Matches (plus digit) cs ↔ cs ≠ [] ∧ Digits cs := by
  rw [digit, range, matches_plus_chars]
  simp only [contains_digits, Digits]

theorem Digits.takeWhile_append (digits : Digits before) (stops : ¬c.isDigit = true) :
    (before ++ c :: after).takeWhile Char.isDigit = before := by
  rw [List.takeWhile_append_of_pos digits, List.takeWhile_cons_of_neg stops, List.append_nil]

theorem Digits.dropWhile_append (digits : Digits before) (stops : ¬c.isDigit = true) :
    (before ++ c :: after).dropWhile Char.isDigit = c :: after := by
  rw [List.dropWhile_append_of_pos digits, List.dropWhile_cons_of_neg stops]

/-- A number without its sign: digits, or a point with digits after it and perhaps before it. -/
inductive Unsigned : List Char → Prop where
  | whole {cs : List Char} (filled : cs ≠ []) (digits : Digits cs) : Unsigned cs
  | point {before after : List Char} (whole : Digits before) (filled : after ≠ [])
      (fraction : Digits after) : Unsigned (before ++ '.' :: after)

theorem matches_unsigned :
    Matches (seq [.star digit, opt (Regex.char '.'), plus digit]) cs ↔ Unsigned cs := by
  simp only [seq, matches_cat, matches_opt, matches_char, matches_star_digit, matches_plus_digit]
  constructor
  · rintro ⟨before, _, rfl, whole, point, after, rfl, dot | none, filled, fraction⟩
    · rw [dot]
      exact .point whole filled fraction
    · rw [none, List.nil_append]
      have digits : Digits (before ++ after) := List.forall_mem_append.2 ⟨whole, fraction⟩
      exact .whole (List.append_ne_nil_of_right_ne_nil before filled) digits
  · intro unsigned
    cases unsigned with
    | whole filled digits =>
      exact ⟨[], cs, rfl, List.forall_mem_nil _, [], cs, rfl, .inr rfl, filled, digits⟩
    | @point before after whole filled fraction =>
      exact ⟨before, _, rfl, whole, ['.'], after, rfl, .inl rfl, filled, fraction⟩

def Signed (P : List Char → Prop) (cs : List Char) : Prop :=
  P cs ∨ ∃ rest, cs = '-' :: rest ∧ P rest

theorem Signed.congr {P Q : List Char → Prop} (same : ∀ cs, P cs ↔ Q cs) :
    Signed P cs ↔ Signed Q cs := by
  simp only [Signed, same]

theorem matches_minus : Matches (.cat Pattern.Syntax.minus r) cs ↔ Signed (Matches r) cs := by
  simp only [matches_cat, Pattern.Syntax.minus, matches_opt, matches_char]
  constructor
  · rintro ⟨_, rest, rfl, rfl | rfl, matched⟩
    · exact .inr ⟨rest, rfl, matched⟩
    · exact .inl matched
  · rintro (matched | ⟨rest, rfl, matched⟩)
    · exact ⟨[], cs, rfl, .inr rfl, matched⟩
    · exact ⟨['-'], rest, rfl, .inl rfl, matched⟩

theorem numeric_accepts_iff : Pattern.numeric.acceptsChars cs = true ↔ Signed Unsigned cs := by
  have matched : Pattern.numeric.acceptsChars cs = true ↔
      Matches (.cat Pattern.Syntax.minus (seq [.star digit, opt (Regex.char '.'), plus digit]))
        cs :=
    acceptsChars_iff_matches fun _ => rfl
  rw [matched, matches_minus]
  exact Signed.congr fun _ => matches_unsigned

theorem ofUnsigned?_whole (filled : cs ≠ []) (digits : Digits cs) :
    Decimal.ofUnsigned? negative cs = some ⟨negative, digitsValue cs, 0⟩ := by
  have whole : cs.takeWhile Char.isDigit = cs := List.takeWhile_eq_self_iff.2 digits
  have nothing : cs.dropWhile Char.isDigit = [] := List.dropWhile_eq_nil_iff.2 digits
  simp [Decimal.ofUnsigned?, whole, nothing, filled]

theorem ofUnsigned?_point (whole : Digits before) (filled : after ≠ []) (fraction : Digits after) :
    Decimal.ofUnsigned? negative (before ++ '.' :: after) =
      some ⟨negative, digitsValue (before ++ after), after.length⟩ := by
  have stops : ¬Char.isDigit '.' = true := by decide
  simp only [Decimal.ofUnsigned?, whole.takeWhile_append stops, whole.dropWhile_append stops]
  have all : after.all Char.isDigit = true := List.all_eq_true.2 fraction
  simp [all, filled]

theorem Unsigned.isSome_ofUnsigned? (unsigned : Unsigned cs) (negative : Bool) :
    (Decimal.ofUnsigned? negative cs).isSome = true := by
  cases unsigned with
  | whole filled digits =>
    rw [ofUnsigned?_whole filled digits]
    rfl
  | point whole filled fraction =>
    rw [ofUnsigned?_point whole filled fraction]
    rfl

theorem Unsigned.minus_not_mem (unsigned : Unsigned cs) : '-' ∉ cs := by
  intro mem
  have noDigit : ¬Char.isDigit '-' = true := by decide
  cases unsigned with
  | whole filled digits => exact noDigit (digits '-' mem)
  | point whole filled fraction =>
    rw [List.mem_append, List.mem_cons] at mem
    rcases mem with first | same | last
    · exact noDigit (whole '-' first)
    · cases same
    · exact noDigit (fraction '-' last)

theorem Unsigned.ofChars?_eq (unsigned : Unsigned cs) :
    Decimal.ofChars? cs = Decimal.ofUnsigned? false cs := by
  unfold Decimal.ofChars?
  split
  · exact absurd List.mem_cons_self unsigned.minus_not_mem
  · rfl

theorem isSome_ofChars?_of_numeric (accepted : Pattern.numeric.acceptsChars cs = true) :
    (Decimal.ofChars? cs).isSome = true := by
  rcases numeric_accepts_iff.1 accepted with unsigned | ⟨rest, rfl, unsigned⟩
  · rw [unsigned.ofChars?_eq]
    exact unsigned.isSome_ofUnsigned? false
  · exact unsigned.isSome_ofUnsigned? true

theorem isSome_number?_iff :
    (Rule.number? value).isSome = true ↔ Pattern.numeric.accepts value = true := by
  unfold Rule.number?
  split
  · rename_i accepted
    rw [Option.isSome_map, isSome_ofChars?_of_numeric accepted, accepted]
  · rename_i refused
    simp [refused]

end FormRules.Proofs.Matching
