import FormRules.Proofs.Matching.Padded
import FormRules.Proofs.Number.Rounding
import FormRules.Proofs.Reading.Parameters

/-!
# Decimal notation

Which number a text denotes. A threshold is read from a text if its value is the double nearest to
the number that the text denotes.
-/

namespace FormRules.Proofs.Number
open Matching Reading

/-- The text denotes a number with this sign and this absolute value. -/
inductive Denotes : List Char → Bool → ℚ → Prop where
  | whole {cs} (filled : cs ≠ []) (digits : Digits cs) : Denotes cs false (digitsValue cs)
  | point {before after} (whole : Digits before) (filled : after ≠ []) (fraction : Digits after) :
      Denotes (before ++ '.' :: after) false
        (digitsValue before + digitsValue after / 10 ^ after.length)
  | minus {cs q} (unsigned : Denotes cs false q) : Denotes ('-' :: cs) true q

variable {cs : List Char} {negative : Bool} {q : ℚ} {t : Threshold}

def absolute (d : Decimal) : ℚ :=
  d.digits / 10 ^ d.places

theorem Denotes.isUnsigned (denotes : Denotes cs false q) : Unsigned cs := by
  cases denotes with
  | whole filled digits => exact .whole filled digits
  | point whole filled fraction => exact .point whole filled fraction

theorem Denotes.ofUnsigned? (denotes : Denotes cs false q) (negative : Bool) :
    ∃ d, Decimal.ofUnsigned? negative cs = some d ∧ d.negative = negative ∧ absolute d = q := by
  cases denotes with
  | whole filled digits => exact ⟨_, ofUnsigned?_whole filled digits, rfl, by simp [absolute]⟩
  | point whole filled fraction =>
    refine ⟨_, ofUnsigned?_point whole filled fraction, rfl, ?_⟩
    rw [absolute, digitsValue_append]
    push_cast
    field_simp

theorem Denotes.ofChars? (denotes : Denotes cs negative q) :
    Pattern.numeric.acceptsChars cs = true ∧
      ∃ d, Decimal.ofChars? cs = some d ∧ d.negative = negative ∧ absolute d = q := by
  cases negative with
  | false =>
    have unsigned := denotes.isUnsigned
    refine ⟨numeric_accepts_iff.2 (.inl unsigned), ?_⟩
    rw [unsigned.ofChars?_eq]
    exact denotes.ofUnsigned? false
  | true =>
    cases denotes with
    | minus denotes =>
      refine ⟨numeric_accepts_iff.2 (.inr ⟨_, rfl, denotes.isUnsigned⟩), ?_⟩
      exact denotes.ofUnsigned? true

theorem exists_denotes_of_unsigned (unsigned : Unsigned cs) : ∃ q, Denotes cs false q := by
  cases unsigned with
  | whole filled digits => exact ⟨_, .whole filled digits⟩
  | point whole filled fraction => exact ⟨_, .point whole filled fraction⟩

theorem exists_denotes (accepted : Pattern.numeric.acceptsChars cs = true) :
    ∃ negative q, Denotes cs negative q := by
  rcases numeric_accepts_iff.1 accepted with unsigned | ⟨rest, rfl, unsigned⟩
  · obtain ⟨q, denotes⟩ := exists_denotes_of_unsigned unsigned
    exact ⟨false, q, denotes⟩
  · obtain ⟨q, denotes⟩ := exists_denotes_of_unsigned unsigned
    exact ⟨true, q, .minus denotes⟩

theorem nearest_toBinary64_iff {d : Decimal} {p : Nat} :
    Nearest (absolute d) p ↔ p = d.toBinary64.pattern := by
  have denominator : ((Nat.pow 10 d.places : Nat) : ℚ) = 10 ^ d.places := Nat.cast_pow 10 d.places
  have positive : 0 < Nat.pow 10 d.places := Nat.pow_pos (by decide)
  rw [absolute, ← denominator, nearest_ofRatio_iff d.negative d.digits positive]
  rfl

theorem numeral_iff : Numeral t ↔
    ∃ q, Denotes t.text.toList t.value.negative q ∧ Nearest q t.value.pattern := by
  constructor
  · rintro ⟨accepted, d, read, value⟩
    obtain ⟨negative, q, denotes⟩ := exists_denotes accepted
    obtain ⟨-, d', read', sign, abs⟩ := denotes.ofChars?
    obtain rfl : d = d' := Option.some.inj (read.symm.trans read')
    have same : t.value.negative = negative := by rw [value, ← sign]; rfl
    refine ⟨q, same ▸ denotes, ?_⟩
    rw [← abs, nearest_toBinary64_iff, value]
  · rintro ⟨q, denotes, nearest⟩
    obtain ⟨accepted, d, read, sign, abs⟩ := denotes.ofChars?
    rw [← abs, nearest_toBinary64_iff] at nearest
    refine ⟨accepted, d, read, ?_⟩
    obtain ⟨⟨negative, pattern, le⟩, text⟩ := t
    cases sign
    cases nearest
    rfl

end FormRules.Proofs.Number
