import FormRules.Proofs.Matching.PublicAddresses

/-!
# Addresses

An address is four numbers up to 255 between points. Its expression names four ranges of numbers,
which together are these numbers with at most one leading zero.
-/

namespace FormRules.Proofs.Matching
open Regex hiding none
open Pattern Reading

variable {cs : List Char} {n : Nat}

structure Octet (cs : List Char) : Prop where
  filled : cs ≠ []
  short : cs.length ≤ 3
  digits : Digits cs
  value : digitsValue cs ≤ 255
  first : cs.length = 3 → cs.head? ≠ some '0'

theorem head?_ne_zero (digits : Digits cs) (large : 10 ^ (cs.length - 1) ≤ digitsValue cs) :
    cs.head? ≠ some '0' := by
  intro zero
  obtain ⟨rest, rfl⟩ := List.head?_eq_some_iff.1 zero
  rw [Digits, List.forall_mem_cons] at digits
  have bound := (Digits.eq_padded digits.2).2
  rw [digitsValue_cons, Nat.sub_self, Nat.zero_mul, Nat.zero_add] at large
  exact absurd large (Nat.not_le.2 bound)

theorem MiddleOctet.octet (middle : MiddleOctet cs) : Octet cs where
  filled := List.ne_nil_of_length_pos middle.group.1.1
  short := middle.group.1.2
  digits := middle.digits
  value := middle.value_le
  first three := by
    rcases middle with ⟨length, -⟩ | ⟨n, range, rfl⟩
    · omega
    · apply head?_ne_zero (digits_toDigits n)
      rw [three, digitsValue_numeral]
      exact range.1

theorem Octet.middleOctet (octet : Octet cs) : MiddleOctet cs := by
  have positive := List.length_pos_iff.2 octet.filled
  rcases Nat.lt_or_ge cs.length 3 with two | three
  · exact .inl ⟨⟨positive, Nat.le_of_lt_succ two⟩, octet.digits⟩
  · have length : cs.length = 3 := Nat.le_antisymm octet.short three
    obtain ⟨c, rest, rfl⟩ := List.exists_cons_of_ne_nil octet.filled
    have large : 10 ^ rest.length ≤ digitsValue (c :: rest) :=
      pow_le_digitsValue (octet.digits c List.mem_cons_self)
        fun zero => octet.first length (congrArg some zero)
    rw [Nat.succ.inj length] at large
    obtain ⟨written, small⟩ := octet.digits.eq_padded
    rw [length] at written small
    exact .inr ⟨_, ⟨large, octet.value⟩, written.trans (numeral_eq_padded small (.inr large)).symm⟩

theorem middleOctet_iff : MiddleOctet cs ↔ Octet cs :=
  ⟨MiddleOctet.octet, Octet.middleOctet⟩

theorem octet_numeral_iff : Octet (numeral n) ↔ n ≤ 255 :=
  middleOctet_iff.symm.trans middleOctet_numeral_iff

theorem matches_octet : Matches Syntax.octet cs ↔ Octet cs := by
  have start : Spells (text "25") 2 (· = 25) := @spells_text "25" rfl
  have last : Spells (range '0' '5') 1 (· ≤ 5) :=
    spells_of_table rfl (by decide) (by decide)
  have three : Spells _ 3 fun n => 100 ≤ n ∧ n ≤ 255 :=
    ((spells_tens start last).alt (spells_twoHundreds.alt spells_oneHundred)).congr (by omega)
  have pieces : Matches Syntax.octet cs ↔
      Matches (.alt (.cat (text "25") (range '0' '5'))
        (.alt (seq [Regex.char '2', range '0' '4', digit])
          (.alt (.cat (Regex.char '1') (.cat digit digit)) (between 1 2 digit)))) cs := Iff.rfl
  rw [← middleOctet_iff, MiddleOctet, ← three.matches_numeral (fun n bounds => by omega),
    ← matches_between_digit (Nat.le_succ 1), or_comm, pieces]
  simp only [matches_alt, or_assoc]

theorem matches_ipAddress : Matches Syntax.ipAddress cs ↔
    ∃ a b c d, cs = ['.'].intercalate [a, b, c, d] ∧ Octet a ∧ Octet b ∧ Octet c ∧ Octet d := by
  simp only [Syntax.ipAddress, seq, times, matches_cat, matches_char, matches_octet]
  constructor
  · rintro ⟨_, d, rfl, ⟨_, _, rfl, ⟨a, _, rfl, first, rfl⟩, _, _, rfl, ⟨b, _, rfl, second, rfl⟩,
      c, _, rfl, third, rfl⟩, last⟩
    exact ⟨a, b, c, d, by simp, first, second, third, last⟩
  · rintro ⟨a, b, c, d, rfl, first, second, third, last⟩
    exact ⟨_, d, by simp, ⟨_, _, rfl, ⟨a, _, rfl, first, rfl⟩, _, _, rfl, ⟨b, _, rfl, second, rfl⟩,
      c, _, rfl, third, rfl⟩, last⟩

theorem matches_ipAddress_iff : Matches Syntax.ipAddress cs ↔
    (Text.splitOn '.' cs).length = 4 ∧ ∀ p ∈ Text.splitOn '.' cs, Octet p := by
  rw [matches_ipAddress]
  constructor
  · rintro ⟨a, b, c, d, rfl, octets⟩
    have each : ∀ p ∈ [a, b, c, d], Octet p := by simpa using octets
    rw [splitOn_digits (fun p mem => (each p mem).digits) (List.cons_ne_nil _ _)]
    exact ⟨rfl, each⟩
  · rintro ⟨length, octets⟩
    obtain ⟨-, joined, -⟩ := splitOn_eq_iff.1 (rfl : Text.splitOn '.' cs = _)
    generalize Text.splitOn '.' cs = parts at *
    match parts, length with
    | [a, b, c, d], _ => exact ⟨a, b, c, d, joined, by simpa using octets⟩

theorem address_is_four_octets :
    (∀ s : String, Pattern.ipAddress.accepts s = true ↔
      (Text.splitOn '.' s.toList).length = 4 ∧ ∀ p ∈ Text.splitOn '.' s.toList, Octet p) ∧
    ∀ a b c d : Nat, Pattern.ipAddress.accepts (String.ofList (quad a b c d)) = true ↔
      a ≤ 255 ∧ b ≤ 255 ∧ c ≤ 255 ∧ d ≤ 255 := by
  have accepted (s : String) : Pattern.ipAddress.accepts s = true ↔
      (Text.splitOn '.' s.toList).length = 4 ∧ ∀ p ∈ Text.splitOn '.' s.toList, Octet p :=
    (acceptsChars_iff_matches fun _ => rfl).trans matches_ipAddress_iff
  refine ⟨accepted, fun a b c d => ?_⟩
  rw [accepted, String.toList_ofList, splitOn_quad]
  simp [octet_numeral_iff]

/-- One or two digits may start with a zero. -/
example : Pattern.ipAddress.accepts "00.2.03.255" = true ∧
    Pattern.ipAddress.accepts "1.2.3.004" = false := by decide

end FormRules.Proofs.Matching
