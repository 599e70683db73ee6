import FormRules.Proofs.Matching.Numbers
import Mathlib.Algebra.Group.Nat.Defs
import Mathlib.Data.List.Induction

/-!
# Numbers with leading zeros

An expression of a fixed width that has no other characters than digits spells some of the numbers
with so many digits. For a short expression a table says which; what two expressions spell in a row
follows from what each of them spells.
-/

namespace FormRules.Proofs.Matching
open Regex

variable {r t : Regex} {c : Char} {cs ds : List Char} {j k m n : Nat} {P Q : Nat → Prop}

def padded : Nat → Nat → List Char
  | 0, _ => []
  | k + 1, n => padded k (n / 10) ++ [Nat.digitChar (n % 10)]

theorem digitChar_of_isDigit (digit : c.isDigit = true) :
    c.toNat - '0'.toNat < 10 ∧ Nat.digitChar (c.toNat - '0'.toNat) = c := by
  have table : ∀ n < 58, 48 ≤ n →
      n - 48 < 10 ∧ Nat.digitChar (n - 48) = Char.ofNat n := by decide
  have range := Char.isDigit_iff_toNat.1 digit
  have above : 48 ≤ c.toNat := range.1
  have below : c.toNat ≤ 57 := range.2
  simpa [Char.ofNat_toNat] using table c.toNat (by omega) above

theorem digitsValue_append_singleton :
    digitsValue (cs ++ [c]) = 10 * digitsValue cs + (c.toNat - '0'.toNat) := by
  simp [digitsValue]

theorem digitsValue_append (cs ds : List Char) :
    digitsValue (cs ++ ds) = digitsValue cs * 10 ^ ds.length + digitsValue ds := by
  induction ds using List.reverseRecOn with
  | nil => simp [digitsValue]
  | append_singleton ds d ih =>
    rw [← List.append_assoc, digitsValue_append_singleton, digitsValue_append_singleton, ih,
      List.length_append, List.length_singleton, Nat.pow_succ, ← Nat.mul_assoc]
    omega

theorem digitsValue_cons (c : Char) (cs : List Char) :
    digitsValue (c :: cs) = (c.toNat - '0'.toNat) * 10 ^ cs.length + digitsValue cs := by
  rw [← List.singleton_append, digitsValue_append]
  simp [digitsValue]

theorem pow_le_digitsValue (digit : c.isDigit = true) (other : c ≠ '0') :
    10 ^ cs.length ≤ digitsValue (c :: cs) := by
  have above : '0'.toNat ≤ c.toNat := (Char.isDigit_iff_toNat.1 digit).1
  have different : c.toNat ≠ '0'.toNat := fun same => other (Char.toNat_inj.1 same)
  have positive : 0 < c.toNat - '0'.toNat := by omega
  rw [digitsValue_cons]
  exact Nat.le_add_right_of_le (Nat.le_mul_of_pos_left _ positive)

theorem Digits.eq_padded (digits : Digits cs) :
    cs = padded cs.length (digitsValue cs) ∧ digitsValue cs < 10 ^ cs.length := by
  induction cs using List.reverseRecOn with
  | nil => exact ⟨rfl, Nat.one_pos⟩
  | append_singleton cs c ih =>
    rw [Digits, List.forall_mem_append, List.forall_mem_singleton] at digits
    obtain ⟨small, same⟩ := digitChar_of_isDigit digits.2
    obtain ⟨written, bound⟩ := ih digits.1
    rw [List.length_append, List.length_singleton, digitsValue_append_singleton, padded,
      Nat.pow_succ]
    have quotient : (10 * digitsValue cs + (c.toNat - '0'.toNat)) / 10 = digitsValue cs := by omega
    have remainder : (10 * digitsValue cs + (c.toNat - '0'.toNat)) % 10 = c.toNat - '0'.toNat := by
      omega
    rw [quotient, remainder, ← written, same]
    exact ⟨rfl, by omega⟩

theorem padded_append (small : n < 10 ^ k) :
    padded j m ++ padded k n = padded (j + k) (m * 10 ^ k + n) := by
  induction k generalizing n with
  | zero => simp_all [padded]
  | succ k ih =>
    have last : m * 10 ^ (k + 1) + n = 10 * (m * 10 ^ k + n / 10) + n % 10 := by
      rw [Nat.pow_succ, ← Nat.mul_assoc]
      omega
    have quotient : (m * 10 ^ (k + 1) + n) / 10 = m * 10 ^ k + n / 10 := by omega
    have remainder : (m * 10 ^ (k + 1) + n) % 10 = n % 10 := by omega
    rw [Nat.pow_succ] at small
    rw [← Nat.add_assoc, padded, padded, ← List.append_assoc, ih (by omega), quotient, remainder]

def width? : Regex → Option Nat
  | .none => none
  | .empty => some 0
  | .chars _ => some 1
  | .alt r t => if width? r = width? t then width? r else none
  | .cat r t => do return (← width? r) + (← width? t)
  | .star _ => none

theorem length_of_matches (matched : Matches r cs) (width : width? r = some k) :
    cs.length = k := by
  induction matched generalizing k with
  | empty => simpa [width?] using width
  | chars _ => simpa [width?] using width
  | altLeft _ ih =>
    simp only [width?, Option.ite_none_right_eq_some] at width
    exact ih width.2
  | altRight _ ih =>
    simp only [width?, Option.ite_none_right_eq_some] at width
    exact ih (width.1 ▸ width.2)
  | cat _ _ ihLeft ihRight =>
    simp only [width?, Option.bind_eq_bind, Option.bind_eq_some_iff, Option.pure_def,
      Option.some.injEq] at width
    obtain ⟨left, widthLeft, right, widthRight, rfl⟩ := width
    rw [List.length_append, ihLeft widthLeft, ihRight widthRight]
  | starNil => cases width
  | starCons => cases width

def onlyDigits : Regex → Bool
  | .none => true
  | .empty => true
  | .chars s => !s.complemented && !s.caseless && s.ranges.all fun (lo, hi) => '0' ≤ lo && hi ≤ '9'
  | .alt r t => onlyDigits r && onlyDigits t
  | .cat r t => onlyDigits r && onlyDigits t
  | .star r => onlyDigits r

theorem isDigit_of_inAlphabet (only : onlyDigits r = true) (mem : inAlphabet c r = true) :
    c.isDigit = true := by
  induction r with
  | none => cases mem
  | empty => cases mem
  | chars s =>
    simp only [onlyDigits, Bool.and_eq_true, Bool.not_eq_true', List.all_eq_true,
      decide_eq_true_eq] at only
    obtain ⟨⟨plain, cased⟩, ranges⟩ := only
    simp only [inAlphabet, CharSet.contains, cased, plain, CharSet.inRanges, Bool.false_eq_true,
      if_false, Bool.bne_false, List.any_eq_true, Bool.and_eq_true, decide_eq_true_eq] at mem
    obtain ⟨range, rangeMem, above, below⟩ := mem
    obtain ⟨low, high⟩ := ranges range rangeMem
    exact contains_digits.1 (contains_ofRange.2 ⟨Char.le_trans low above, Char.le_trans below high⟩)
  | alt r t ihr iht =>
    simp only [onlyDigits, Bool.and_eq_true] at only
    simp only [inAlphabet, Bool.or_eq_true] at mem
    exact mem.elim (ihr only.1) (iht only.2)
  | cat r t ihr iht =>
    simp only [onlyDigits, Bool.and_eq_true] at only
    simp only [inAlphabet, Bool.or_eq_true] at mem
    exact mem.elim (ihr only.1) (iht only.2)
  | star r ih => exact ih only mem

/-- The expression matches the numbers of `k` digits with the property `P`, and nothing else. -/
def Spells (r : Regex) (k : Nat) (P : Nat → Prop) : Prop :=
  ∀ cs, Matches r cs ↔ ∃ n, n < 10 ^ k ∧ P n ∧ cs = padded k n

theorem spells_of_table [DecidablePred P] (width : width? r = some k) (only : onlyDigits r = true)
    (table : ∀ n < 10 ^ k, r.accepts (padded k n) = decide (P n)) : Spells r k P := by
  intro cs
  constructor
  · intro matched
    have digits : Digits cs := fun c mem =>
      isDigit_of_inAlphabet only (inAlphabet_of_matches matched mem)
    obtain ⟨written, bound⟩ := digits.eq_padded
    rw [length_of_matches matched width] at written bound
    refine ⟨digitsValue cs, bound, ?_, written⟩
    have accepted := table _ bound
    rw [← written, accepts_iff.2 matched] at accepted
    exact of_decide_eq_true accepted.symm
  · rintro ⟨n, bound, holds, rfl⟩
    rw [← accepts_iff, table n bound]
    exact decide_eq_true holds

theorem Spells.alt (first : Spells r k P) (second : Spells t k Q) :
    Spells (.alt r t) k fun n => P n ∨ Q n := by
  intro cs
  rw [matches_alt, first cs, second cs, ← exists_or]
  exact exists_congr fun n => by tauto

theorem Spells.cat (first : Spells r j P) (second : Spells t k Q) :
    Spells (.cat r t) (j + k) fun n => P (n / 10 ^ k) ∧ Q (n % 10 ^ k) := by
  have positive : 0 < 10 ^ k := Nat.pow_pos (by decide)
  intro cs
  rw [matches_cat]
  constructor
  · rintro ⟨before, after, rfl, matched, matched'⟩
    obtain ⟨m, small, holds, rfl⟩ := (first before).1 matched
    obtain ⟨n, small', holds', rfl⟩ := (second after).1 matched'
    refine ⟨m * 10 ^ k + n, ?_, ?_, padded_append small'⟩
    · calc m * 10 ^ k + n < (m + 1) * 10 ^ k := by rw [Nat.add_one_mul]; omega
        _ ≤ 10 ^ j * 10 ^ k := Nat.mul_le_mul_right _ small
        _ = 10 ^ (j + k) := (Nat.pow_add ..).symm
    · have quotient : (m * 10 ^ k + n) / 10 ^ k = m := by
        rw [Nat.mul_comm, Nat.mul_add_div positive, Nat.div_eq_of_lt small', Nat.add_zero]
      have remainder : (m * 10 ^ k + n) % 10 ^ k = n := by
        rw [Nat.mul_comm, Nat.mul_add_mod, Nat.mod_eq_of_lt small']
      exact ⟨by rwa [quotient], by rwa [remainder]⟩
  · rintro ⟨n, small, ⟨holds, holds'⟩, rfl⟩
    rw [Nat.pow_add] at small
    refine ⟨padded j (n / 10 ^ k), padded k (n % 10 ^ k), ?_, ?_, ?_⟩
    · rw [padded_append (Nat.mod_lt n positive), Nat.div_add_mod']
    · exact (first _).2 ⟨_, Nat.div_lt_of_lt_mul (by rwa [Nat.mul_comm] at small), holds, rfl⟩
    · exact (second _).2 ⟨_, Nat.mod_lt n positive, holds', rfl⟩

theorem Spells.congr (spells : Spells r k P) (same : ∀ n < 10 ^ k, P n ↔ Q n) :
    Spells r k Q := by
  intro cs
  rw [spells cs]
  refine exists_congr fun n => ?_
  exact and_congr_right fun small => and_congr_left fun _ => same n small

end FormRules.Proofs.Matching
