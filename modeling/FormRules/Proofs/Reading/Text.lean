import FormRules.Text
import Mathlib.Data.List.DropRight

/-!
# Cutting texts

What trimming and stripping leave, and how a text that was put together with separators comes apart
again.
-/

namespace FormRules.Proofs.Reading
open Text

variable {c sep : Char} {cs before after : List Char}

theorem isSpace_iff : isSpace c = true ↔ (9 ≤ c.toNat ∧ c.toNat ≤ 13) ∨ c.toNat = 0x20 ∨
    c.toNat = 0x85 ∨ c.toNat = 0xa0 ∨ c.toNat = 0x1680 ∨
    (0x2000 ≤ c.toNat ∧ c.toNat ≤ 0x200a) ∨ c.toNat = 0x2028 ∨ c.toNat = 0x2029 ∨
    c.toNat = 0x202f ∨ c.toNat = 0x205f ∨ c.toNat = 0x3000 := by
  simp [isSpace, or_assoc]

theorem not_isSpace_of_isDigit (digit : c.isDigit = true) : isSpace c = false := by
  have range := Char.isDigit_iff_toNat.1 digit
  have above : 48 ≤ c.toNat := range.1
  have below : c.toNat ≤ 57 := range.2
  rw [Bool.eq_false_iff, ne_eq, isSpace_iff]
  omega

theorem strip_eq_self (solid : ∀ c ∈ cs, isSpace c = false) : strip cs = cs := by
  apply List.filter_eq_self.2
  intro c mem
  simp [solid c mem]

theorem trim_eq_rdropWhile (cs : List Char) :
    trim cs = (cs.dropWhile isSpace).rdropWhile isSpace :=
  rfl

theorem mem_of_mem_trim (mem : c ∈ trim cs) : c ∈ cs := by
  rw [trim_eq_rdropWhile] at mem
  have kept : c ∈ cs.dropWhile isSpace := (List.rdropWhile_prefix isSpace _).subset mem
  exact (List.dropWhile_suffix _).subset kept

def Trimmed (cs : List Char) : Prop :=
  (∀ c, cs.head? = some c → isSpace c = false) ∧ ∀ c, cs.getLast? = some c → isSpace c = false

theorem Trimmed.trim_eq (trimmed : Trimmed cs) : trim cs = cs := by
  have start : cs.dropWhile isSpace = cs := by
    cases cs with
    | nil => rfl
    | cons first rest => simp [trimmed.1 first rfl]
  rw [trim_eq_rdropWhile, start, List.rdropWhile_eq_self_iff]
  intro filled
  simp [trimmed.2 _ (List.getLast?_eq_some_getLast filled)]

theorem trimmed_trim (cs : List Char) : Trimmed (trim cs) := by
  rw [trim_eq_rdropWhile]
  constructor
  · intro c first
    obtain ⟨rest, split⟩ := List.rdropWhile_prefix isSpace (cs.dropWhile isSpace)
    have kept : (cs.dropWhile isSpace).head? = some c := by
      rw [← split, List.head?_append, first]
      rfl
    have stopped := List.head?_dropWhile_not isSpace cs
    rw [kept] at stopped
    exact stopped
  · intro c last
    have filled : (cs.dropWhile isSpace).rdropWhile isSpace ≠ [] := by
      intro empty
      simp [empty] at last
    have stopped := List.rdropWhile_last_not isSpace _ filled
    rw [List.getLast?_eq_some_getLast filled, Option.some.injEq] at last
    rw [last] at stopped
    exact Bool.eq_false_iff.2 stopped

theorem trim_trim (cs : List Char) : trim (trim cs) = trim cs :=
  (trimmed_trim cs).trim_eq

theorem splitOn_eq (sep : Char) (cs : List Char) : splitOn sep cs = cs.splitOn sep := by
  induction cs with
  | nil => rfl
  | cons c cs ih =>
    rw [splitOn, ih, List.splitOn_cons_eq_if_modifyHead]
    by_cases cut : c = sep
    · simp [cut]
    · cases parts : cs.splitOn sep with
      | nil => exact absurd parts (List.splitOn_ne_nil sep cs)
      | cons part parts => simp [cut]

theorem splitOn_intercalate {parts : List (List Char)} (whole : ∀ part ∈ parts, sep ∉ part)
    (some : parts ≠ []) : splitOn sep ([sep].intercalate parts) = parts := by
  rw [splitOn_eq]
  exact List.splitOn_intercalate sep whole some

theorem mem_of_mem_splitOn {part : List Char} (mem : part ∈ splitOn sep cs) (inside : c ∈ part) :
    c ∈ cs ∧ c ≠ sep := by
  induction cs generalizing part with
  | nil =>
    rw [splitOn, List.mem_singleton] at mem
    rw [mem] at inside
    cases inside
  | cons first cs ih =>
    have later {part : List Char} (mem : part ∈ splitOn sep cs) (inside : c ∈ part) :
        c ∈ first :: cs ∧ c ≠ sep :=
      ⟨List.mem_cons_of_mem _ (ih mem inside).1, (ih mem inside).2⟩
    rw [splitOn] at mem
    by_cases cut : first = sep
    · rw [if_pos cut, List.mem_cons] at mem
      rcases mem with rfl | mem
      · cases inside
      · exact later mem inside
    · rw [if_neg cut] at mem
      cases parts : splitOn sep cs with
      | nil => exact absurd parts (splitOn_ne_nil sep cs)
      | cons head parts =>
        rw [parts] at mem later
        simp only [List.mem_cons] at mem
        rcases mem with rfl | mem
        · rcases List.mem_cons.1 inside with rfl | inside
          · exact ⟨List.mem_cons_self, cut⟩
          · exact later List.mem_cons_self inside
        · exact later (List.mem_cons_of_mem _ mem) inside

theorem splitOn_eq_iff {parts : List (List Char)} : splitOn sep cs = parts ↔
    parts ≠ [] ∧ cs = [sep].intercalate parts ∧ ∀ part ∈ parts, sep ∉ part := by
  constructor
  · rintro rfl
    refine ⟨splitOn_ne_nil sep cs, ?_, fun part mem inside => (mem_of_mem_splitOn mem inside).2 rfl⟩
    rw [splitOn_eq, List.intercalate_splitOn]
  · rintro ⟨some, rfl, whole⟩
    exact splitOn_intercalate whole some

theorem splitOnce?_eq_none_iff : splitOnce? sep cs = none ↔ sep ∉ cs := by
  induction cs with
  | nil => simp [splitOnce?]
  | cons first cs ih =>
    by_cases cut : first = sep
    · simp [splitOnce?, cut]
    · simp [splitOnce?, cut, ih, Ne.symm cut]

theorem splitOnce?_eq_some_iff :
    splitOnce? sep cs = some (before, after) ↔ cs = before ++ sep :: after ∧ sep ∉ before := by
  induction cs generalizing before with
  | nil => simp [splitOnce?]
  | cons first cs ih =>
    by_cases cut : first = sep
    · rw [splitOnce?, if_pos cut]
      cases before with
      | nil => simp [cut]
      | cons b before =>
        constructor
        · intro found
          cases found
        · rintro ⟨split, whole⟩
          cases split
          rw [cut] at whole
          exact absurd List.mem_cons_self whole
    · rw [splitOnce?, if_neg cut, Option.map_eq_some_iff]
      constructor
      · rintro ⟨⟨start, rest⟩, found, eq⟩
        cases eq
        obtain ⟨split, whole⟩ := ih.1 found
        exact ⟨by rw [split]; rfl, by simp [whole, Ne.symm cut]⟩
      · rintro ⟨split, whole⟩
        cases before with
        | nil =>
          cases split
          exact absurd rfl cut
        | cons b before =>
          cases split
          rw [List.mem_cons, not_or] at whole
          exact ⟨(before, after), ih.2 ⟨rfl, whole.2⟩, rfl⟩

theorem dropLast?_eq_some_iff : dropLast? c cs = some before ↔ cs = before ++ [c] := by
  constructor
  · intro cut
    unfold dropLast? at cut
    split at cut
    · rename_i last
      cases cut
      exact (List.dropLast_append_getLast? c last).symm
    · cases cut
  · rintro rfl
    simp [dropLast?]

end FormRules.Proofs.Reading
