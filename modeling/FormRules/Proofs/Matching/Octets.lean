import FormRules.Proofs.Matching.Expressions
import FormRules.Proofs.Matching.Padded

/-!
# Octets

Numbers of up to three digits, as they are written without leading zeros, and the expressions for
the parts of an address.
-/

namespace FormRules.Proofs.Matching
open Regex Pattern

variable {r t u : Regex} {cs : List Char} {k m n : Nat} {P : Nat → Prop}

abbrev numeral (n : Nat) : List Char :=
  Nat.toDigits 10 n

theorem digitsValue_numeral (n : Nat) : digitsValue (numeral n) = n :=
  Nat.ofDigitChars_ten_toDigits

theorem numeral_inj : numeral m = numeral n ↔ m = n := by
  constructor
  · intro same
    rw [← digitsValue_numeral m, same, digitsValue_numeral]
  · exact congrArg numeral

theorem numeral_eq_padded (small : n < 10 ^ (k + 1)) (large : k = 0 ∨ 10 ^ k ≤ n) :
    numeral n = padded (k + 1) n := by
  induction k generalizing n with
  | zero =>
    have digit : n < 10 := small
    rw [numeral, Nat.toDigits_eq_if (by decide), if_pos digit, padded, Nat.mod_eq_of_lt digit]
    rfl
  | succ k ih =>
    have longer : 10 * 10 ^ k ≤ n := by
      rw [← Nat.pow_succ']
      exact large.resolve_left k.succ_ne_zero
    have positive : 0 < 10 ^ k := Nat.pow_pos (by decide)
    have quotient : n / 10 < 10 ^ (k + 1) := Nat.div_lt_of_lt_mul (by rwa [← Nat.pow_succ'])
    rw [numeral, Nat.toDigits_eq_if (by decide), if_neg (by omega), padded,
      ← ih quotient (.inr (by omega))]

theorem Spells.matches_numeral (spells : Spells r (k + 1) P)
    (exact : ∀ n, P n → n < 10 ^ (k + 1) ∧ 10 ^ k ≤ n) :
    Matches r cs ↔ ∃ n, P n ∧ cs = numeral n := by
  rw [spells cs]
  refine exists_congr fun n => ?_
  constructor
  · rintro ⟨small, holds, rfl⟩
    exact ⟨holds, (numeral_eq_padded small (.inr (exact n holds).2)).symm⟩
  · rintro ⟨holds, rfl⟩
    have small := (exact n holds).1
    exact ⟨small, holds, numeral_eq_padded small (.inr (exact n holds).2)⟩

theorem numeral_of_lt_thousand (small : n < 1000) :
    n < 10 ∧ numeral n = padded 1 n ∨ (10 ≤ n ∧ n < 100) ∧ numeral n = padded 2 n ∨
      100 ≤ n ∧ numeral n = padded 3 n := by
  rcases Nat.lt_or_ge n 10 with one | more
  · exact .inl ⟨one, numeral_eq_padded one (.inl rfl)⟩
  · rcases Nat.lt_or_ge n 100 with two | three
    · exact .inr (.inl ⟨⟨more, two⟩, numeral_eq_padded two (.inr more)⟩)
    · exact .inr (.inr ⟨three, numeral_eq_padded small (.inr three)⟩)

theorem matches_numerals (bounded : ∀ n, P n → n < 1000) (one : Spells r 1 P)
    (two : Spells t 2 fun n => 10 ≤ n ∧ P n) (three : Spells u 3 fun n => 100 ≤ n ∧ P n) :
    Matches r cs ∨ Matches t cs ∨ Matches u cs ↔ ∃ n, P n ∧ cs = numeral n := by
  rw [one cs, two cs, three cs]
  constructor
  · rintro (⟨n, small, holds, rfl⟩ | ⟨n, small, holds, rfl⟩ | ⟨n, small, holds, rfl⟩)
    · exact ⟨n, holds, (numeral_eq_padded small (.inl rfl)).symm⟩
    · exact ⟨n, holds.2, (numeral_eq_padded small (.inr holds.1)).symm⟩
    · exact ⟨n, holds.2, (numeral_eq_padded small (.inr holds.1)).symm⟩
  · rintro ⟨n, holds, rfl⟩
    have small := bounded n holds
    rcases numeral_of_lt_thousand small with ⟨one, same⟩ | ⟨two, same⟩ | ⟨three, same⟩
    · exact .inl ⟨n, one, holds, same⟩
    · exact .inr (.inl ⟨n, two.2, ⟨two.1, holds⟩, same⟩)
    · exact .inr (.inr ⟨n, small, ⟨three, holds⟩, same⟩)

theorem matches_cat_opt : Matches (.cat r (opt t)) cs ↔ Matches r cs ∨ Matches (.cat r t) cs := by
  simp only [matches_cat, matches_opt]
  constructor
  · rintro ⟨a, b, rfl, matched, matched' | rfl⟩
    · exact .inr ⟨a, b, rfl, matched, matched'⟩
    · exact .inl (by rwa [List.append_nil])
  · rintro (matched | ⟨a, b, rfl, matched, matched'⟩)
    · exact ⟨cs, [], (List.append_nil cs).symm, matched, .inr rfl⟩
    · exact ⟨a, b, rfl, matched, .inl matched'⟩

theorem spells_text {s : String} (digits : s.toList.all Char.isDigit = true) :
    Spells (text s) s.toList.length (· = digitsValue s.toList) := by
  obtain ⟨same, small⟩ := Digits.eq_padded (List.all_eq_true.1 digits)
  intro cs
  rw [matches_text]
  constructor
  · intro whole
    exact ⟨_, small, rfl, whole.trans same⟩
  · rintro ⟨_, -, rfl, written⟩
    exact written.trans same.symm

theorem spells_leadingDigit : Spells (range '1' '9') 1 fun n => 1 ≤ n :=
  spells_of_table rfl (by decide) (by decide)

theorem spells_twoDigits : Spells (.cat digit digit) 2 fun _ => True :=
  spells_of_table rfl (by decide) (by decide)

theorem spells_noLeadingZero : Spells (.cat (range '1' '9') digit) 2 fun n => 10 ≤ n :=
  spells_of_table rfl (by decide) (by decide)

theorem spells_oneHundred :
    Spells (.cat (Regex.char '1') (.cat digit digit)) 3 fun n => 100 ≤ n ∧ n ≤ 199 := by
  have first : Spells (Regex.char '1') 1 (· = 1) := @spells_text "1" rfl
  apply (first.cat spells_twoDigits).congr
  intro n _
  show n / 100 = 1 ∧ True ↔ _
  rw [and_true]
  omega

theorem spells_tens {start : Regex} (first : Spells start 2 (· = k)) (last : Spells t 1 (· ≤ m)) :
    Spells (.cat start t) 3 fun n => n / 10 = k ∧ n % 10 ≤ m :=
  first.cat last

theorem spells_twoHundreds :
    Spells (seq [Regex.char '2', range '0' '4', digit]) 3 fun n => 200 ≤ n ∧ n ≤ 249 := by
  have first : Spells (Regex.char '2') 1 (· = 2) := @spells_text "2" rfl
  have second : Spells (.cat (range '0' '4') digit) 2 (· < 50) :=
    spells_of_table rfl (by decide) (by decide)
  apply (first.cat second).congr
  intro n _
  omega

theorem matches_firstOctet :
    Matches Syntax.firstOctet cs ↔ ∃ n, (1 ≤ n ∧ n ≤ 223) ∧ cs = numeral n := by
  have twoHundreds : Spells (seq [Regex.char '2', oneOf "01", digit]) 3
      fun n => 200 ≤ n ∧ n ≤ 219 := by
    have first : Spells (Regex.char '2') 1 (· = 2) := @spells_text "2" rfl
    have second : Spells (.cat (oneOf "01") digit) 2 (· < 20) :=
      spells_of_table rfl (by decide) (by decide)
    apply (first.cat second).congr
    intro n _
    omega
  have start : Spells (text "22") 2 (· = 22) := @spells_text "22" rfl
  have last : Spells (range '0' '3') 1 (· ≤ 3) :=
    spells_of_table rfl (by decide) (by decide)
  have three := spells_oneHundred.alt (twoHundreds.alt (spells_tens start last))
  rw [← matches_numerals (by omega) (spells_leadingDigit.congr (by omega))
    (spells_noLeadingZero.congr (by omega)) (three.congr (by omega)), ← or_assoc,
    ← matches_cat_opt]
  exact matches_alt

theorem matches_lastOctet :
    Matches Syntax.lastOctet cs ↔ ∃ n, (1 ≤ n ∧ n ≤ 254) ∧ cs = numeral n := by
  have start : Spells (text "25") 2 (· = 25) := @spells_text "25" rfl
  have last : Spells (range '0' '4') 1 (· ≤ 4) :=
    spells_of_table rfl (by decide) (by decide)
  have three := spells_oneHundred.alt (spells_twoHundreds.alt (spells_tens start last))
  rw [← matches_numerals (by omega) (spells_leadingDigit.congr (by omega))
    (spells_noLeadingZero.congr (by omega)) (three.congr (by omega)), ← or_assoc,
    ← matches_cat_opt]
  exact matches_alt

/-- One or two digits, or a number from 100 to 255. -/
def MiddleOctet (cs : List Char) : Prop :=
  (1 ≤ cs.length ∧ cs.length ≤ 2) ∧ Digits cs ∨ ∃ n, (100 ≤ n ∧ n ≤ 255) ∧ cs = numeral n

theorem matches_between_digit (order : m ≤ n) : Matches (between m n digit) cs ↔
    (m ≤ cs.length ∧ cs.length ≤ n) ∧ Digits cs := by
  rw [digit, range, matches_between_chars order]
  simp only [contains_digits, Digits]

theorem matches_colonDigits (order : m ≤ n) :
    Matches (seq [Regex.char ':', between m n digit]) cs ↔
      ∃ ds, cs = ':' :: ds ∧ (m ≤ ds.length ∧ ds.length ≤ n) ∧ Digits ds := by
  simp only [seq, matches_cat, matches_char, matches_between_digit order]
  constructor
  · rintro ⟨_, ds, rfl, rfl, digits⟩
    exact ⟨ds, rfl, digits⟩
  · rintro ⟨ds, rfl, digits⟩
    exact ⟨[':'], ds, rfl, rfl, digits⟩

/-- An optional leading one adds the numbers from 100 to 199. -/
theorem matches_optionalOne :
    Matches (.cat (opt (Regex.char '1')) (between 1 2 digit)) cs ↔
      ((1 ≤ cs.length ∧ cs.length ≤ 2) ∧ Digits cs) ∨
        Matches (.cat (Regex.char '1') (.cat digit digit)) cs := by
  have twoDigits (b : List Char) : Matches (.cat digit digit) b ↔ b.length = 2 ∧ Digits b := by
    rw [show Regex.cat digit digit = times 2 digit from rfl, digit, range, matches_times_chars]
    simp only [contains_digits, Digits]
  have one : Char.isDigit '1' = true := by decide
  simp only [matches_cat (r := opt _), matches_cat (r := Regex.char _), matches_opt, matches_char,
    matches_between_digit (Nat.le_succ 1), twoDigits]
  constructor
  · rintro ⟨_, b, rfl, rfl | rfl, length, digits⟩
    · rcases Nat.lt_or_ge b.length 2 with short | long
      · refine .inl ⟨?_, List.forall_mem_cons.2 ⟨one, digits⟩⟩
        rw [List.singleton_append, List.length_cons]
        omega
      · exact .inr ⟨['1'], b, rfl, rfl, Nat.le_antisymm length.2 long, digits⟩
    · exact .inl ⟨length, digits⟩
  · rintro (⟨length, digits⟩ | ⟨_, b, rfl, rfl, length, digits⟩)
    · exact ⟨[], cs, rfl, .inr rfl, length, digits⟩
    · exact ⟨['1'], b, rfl, .inl rfl, by omega, digits⟩

theorem matches_middleOctet : Matches Syntax.middleOctet cs ↔ MiddleOctet cs := by
  have start : Spells (text "25") 2 (· = 25) := @spells_text "25" rfl
  have last : Spells (range '0' '5') 1 (· ≤ 5) :=
    spells_of_table rfl (by decide) (by decide)
  have three := spells_oneHundred.alt (spells_twoHundreds.alt (spells_tens start last))
  have range : Spells _ 3 fun n => 100 ≤ n ∧ n ≤ 255 := three.congr (by omega)
  rw [MiddleOctet, ← range.matches_numeral (fun n bounds => by omega), matches_alt, ← or_assoc,
    ← matches_optionalOne]
  exact matches_alt

end FormRules.Proofs.Matching
