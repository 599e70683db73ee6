import FormRules.Pattern
import Mathlib.Data.List.Basic

/-!
# Characters of a match

A matched text has only characters that its expression names. For the number patterns these are
digits, the minus sign and the point.
-/

namespace FormRules.Proofs.Matching
open Regex

variable {r : Regex} {s : CharSet} {c lo hi : Char} {cs : List Char}

/-- `c` is in one of the character sets of the expression. -/
def inAlphabet (c : Char) : Regex → Bool
  | .none => false
  | .empty => false
  | .chars s => s.contains c
  | .alt r t => inAlphabet c r || inAlphabet c t
  | .cat r t => inAlphabet c r || inAlphabet c t
  | .star r => inAlphabet c r

theorem inAlphabet_of_matches (matched : Matches r cs) (mem : c ∈ cs) :
    inAlphabet c r = true := by
  induction matched with
  | empty => cases mem
  | chars contains =>
    rw [List.mem_singleton] at mem
    rw [mem]
    exact contains
  | altLeft _ ih => simp [inAlphabet, ih mem]
  | altRight _ ih => simp [inAlphabet, ih mem]
  | cat _ _ ihLeft ihRight =>
    rcases List.mem_append.1 mem with mem | mem
    · simp [inAlphabet, ihLeft mem]
    · simp [inAlphabet, ihRight mem]
  | starNil => cases mem
  | starCons _ _ ihFirst ihRest =>
    rcases List.mem_append.1 mem with mem | mem
    · exact ihFirst mem
    · exact ihRest mem

theorem not_mem_of_matches (absent : inAlphabet c r = false) (matched : Matches r cs) :
    c ∉ cs := by
  intro mem
  rw [inAlphabet_of_matches matched mem] at absent
  cases absent

theorem contains_ofString {t : String} : (CharSet.ofString t).contains c = true ↔ c ∈ t.toList := by
  have one (d : Char) : d ≤ c ∧ c ≤ d ↔ d = c :=
    ⟨fun ⟨above, below⟩ => Char.le_antisymm above below, fun same => by simp [same]⟩
  simp [CharSet.contains, CharSet.ofString, CharSet.inRanges, one]

theorem contains_ofRange : (CharSet.ofRange lo hi).contains c = true ↔ lo ≤ c ∧ c ≤ hi := by
  simp [CharSet.contains, CharSet.ofRange, CharSet.inRanges]

theorem contains_single : (CharSet.ofRange lo lo).contains c = true ↔ c = lo := by
  rw [contains_ofRange]
  constructor
  · rintro ⟨above, below⟩
    exact Char.le_antisymm below above
  · rintro rfl
    exact ⟨Char.le_refl c, Char.le_refl c⟩

theorem matches_star_chars :
    Matches (.star (.chars s)) cs ↔ ∀ c ∈ cs, s.contains c = true := by
  induction cs with
  | nil => simp [Matches.starNil]
  | cons c cs ih =>
    rw [matches_star_cons, List.forall_mem_cons, ← ih]
    constructor
    · rintro ⟨first, rest, rfl, matched, repeated⟩
      obtain ⟨d, single, contains⟩ := matches_chars.1 matched
      cases single
      exact ⟨contains, repeated⟩
    · rintro ⟨contains, repeated⟩
      exact ⟨[], cs, rfl, .chars contains, repeated⟩

theorem matches_plus_chars :
    Matches (plus (.chars s)) cs ↔ cs ≠ [] ∧ ∀ c ∈ cs, s.contains c = true := by
  rw [plus, matches_cat]
  constructor
  · rintro ⟨first, rest, rfl, matched, repeated⟩
    obtain ⟨d, rfl, contains⟩ := matches_chars.1 matched
    refine ⟨List.cons_ne_nil _ _, List.forall_mem_cons.2 ⟨contains, ?_⟩⟩
    exact matches_star_chars.1 repeated
  · rintro ⟨filled, all⟩
    cases cs with
    | nil => exact absurd rfl filled
    | cons c cs =>
      rw [List.forall_mem_cons] at all
      exact ⟨[c], cs, rfl, .chars all.1, matches_star_chars.2 all.2⟩

theorem ne_of_isDigit {special : Char} (digit : c.isDigit = true)
    (other : special.isDigit = false) : c ≠ special := by
  rintro rfl
  rw [digit] at other
  cases other

theorem contains_digits : (CharSet.ofRange '0' '9').contains c = true ↔ c.isDigit = true := by
  rw [contains_ofRange]
  simp [Char.isDigit, Char.le_def]

theorem acceptsChars_iff_matches {p : Pattern} (free : ∀ cs, p.sideCondition cs = true) :
    p.acceptsChars cs = true ↔ Matches p.regex cs := by
  rw [Pattern.acceptsChars, free, Bool.and_true, accepts_iff]

theorem natural_accepts_iff :
    Pattern.natural.acceptsChars cs = true ↔ cs ≠ [] ∧ ∀ c ∈ cs, c.isDigit = true := by
  have matched : Pattern.natural.acceptsChars cs = true ↔ Matches (plus digit) cs :=
    acceptsChars_iff_matches fun _ => rfl
  rw [matched, digit, range, matches_plus_chars]
  simp only [contains_digits]

theorem mem_of_numeric (accepted : Pattern.numeric.acceptsChars cs = true) (mem : c ∈ cs) :
    c = '-' ∨ c = '.' ∨ c.isDigit = true := by
  have matched : Matches Pattern.Syntax.numeric cs :=
    (acceptsChars_iff_matches fun _ => rfl).1 accepted
  have named := inAlphabet_of_matches matched mem
  simp only [Pattern.Syntax.numeric, Pattern.Syntax.minus, seq, opt, plus, digit, range, Regex.char,
    inAlphabet, Bool.or_eq_true, contains_digits, contains_single] at named
  tauto

end FormRules.Proofs.Matching
