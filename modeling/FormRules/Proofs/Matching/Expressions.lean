import FormRules.Proofs.Matching.Numbers

/-!
# Repetitions

What the derived forms of expressions match: a fixed text, a number of times, and parts in a row.
-/

namespace FormRules.Proofs.Matching
open Regex

variable {r t : Regex} {rs : List Regex} {s : CharSet} {c sep : Char} {cs : List Char}
  {parts : List (List Char)} {lo hi n : Nat}

theorem matches_seq_cons : Matches (seq (r :: rs)) cs ↔
    ∃ a b, cs = a ++ b ∧ Matches r a ∧ Matches (seq rs) b := by
  cases rs with
  | nil =>
    simp only [seq, matches_empty]
    constructor
    · exact fun matched => ⟨cs, [], (List.append_nil cs).symm, matched, rfl⟩
    · rintro ⟨a, _, rfl, matched, rfl⟩
      rwa [List.append_nil]
  | cons t rs => rw [seq.eq_3 _ _ (by simp), matches_cat]

theorem matches_cat_assoc {u : Regex} :
    Matches (.cat r (.cat t u)) cs ↔ Matches (.cat (.cat r t) u) cs := by
  simp only [matches_cat]
  constructor
  · rintro ⟨a, _, rfl, first, b, c, rfl, second, third⟩
    exact ⟨a ++ b, c, (List.append_assoc a b c).symm, ⟨a, b, rfl, first, second⟩, third⟩
  · rintro ⟨_, c, rfl, ⟨a, b, rfl, first, second⟩, third⟩
    exact ⟨a, b ++ c, List.append_assoc a b c, first, b, c, rfl, second, third⟩

theorem matches_anyOf : Matches (anyOf rs) cs ↔ ∃ r ∈ rs, Matches r cs := by
  induction rs with
  | nil => simp [anyOf, not_matches_none]
  | cons r rs ih =>
    cases rs with
    | nil => simp [anyOf]
    | cons t rs =>
      rw [anyOf.eq_3 _ _ (by simp), matches_alt, ih]
      simp only [List.exists_mem_cons_iff]

theorem matches_map_char {ds : List Char} : Matches (seq (ds.map Regex.char)) cs ↔ cs = ds := by
  induction ds generalizing cs with
  | nil => exact matches_empty
  | cons d ds ih =>
    rw [List.map_cons, matches_seq_cons]
    simp only [matches_char, ih]
    constructor
    · rintro ⟨_, _, rfl, rfl, rfl⟩
      rfl
    · rintro rfl
      exact ⟨[d], ds, rfl, rfl, rfl⟩

theorem matches_text {s : String} : Matches (text s) cs ↔ cs = s.toList :=
  matches_map_char

theorem matches_times_succ : Matches (times (n + 1) r) cs ↔
    ∃ a b, cs = a ++ b ∧ Matches r a ∧ Matches (times n r) b := by
  cases n with
  | zero =>
    simp only [times, matches_empty]
    constructor
    · exact fun matched => ⟨cs, [], (List.append_nil cs).symm, matched, rfl⟩
    · rintro ⟨a, _, rfl, matched, rfl⟩
      rwa [List.append_nil]
  | succ n => rw [times.eq_3 _ _ n.succ_ne_zero, matches_cat]

theorem matches_times_chars : Matches (times n (.chars s)) cs ↔
    cs.length = n ∧ ∀ c ∈ cs, s.contains c = true := by
  induction n generalizing cs with
  | zero => simp +contextual [times, matches_empty, List.length_eq_zero_iff]
  | succ n ih =>
    simp only [matches_times_succ, matches_chars, ih]
    constructor
    · rintro ⟨_, b, rfl, ⟨c, rfl, contains⟩, rfl, all⟩
      exact ⟨rfl, List.forall_mem_cons.2 ⟨contains, all⟩⟩
    · rintro ⟨length, all⟩
      obtain ⟨c, b, rfl⟩ := List.exists_cons_of_length_eq_add_one length
      rw [List.forall_mem_cons] at all
      exact ⟨[c], b, rfl, ⟨c, rfl, all.1⟩, Nat.succ.inj length, all.2⟩

theorem matches_upTo_chars : Matches (upTo n (.chars s)) cs ↔
    cs.length ≤ n ∧ ∀ c ∈ cs, s.contains c = true := by
  induction n generalizing cs with
  | zero => simp +contextual [upTo, matches_empty, List.length_eq_zero_iff]
  | succ n ih =>
    simp only [upTo, matches_opt, matches_cat, matches_chars, ih]
    constructor
    · rintro (⟨_, b, rfl, ⟨c, rfl, contains⟩, short, all⟩ | rfl)
      · exact ⟨Nat.succ_le_succ short, List.forall_mem_cons.2 ⟨contains, all⟩⟩
      · simp
    · rintro ⟨short, all⟩
      cases cs with
      | nil => exact .inr rfl
      | cons c cs =>
        rw [List.forall_mem_cons] at all
        exact .inl ⟨[c], cs, rfl, ⟨c, rfl, all.1⟩, Nat.le_of_succ_le_succ short, all.2⟩

theorem exists_append_of_length {P Q : Nat → Prop} : (∃ a b, cs = a ++ b ∧
      (P a.length ∧ ∀ c ∈ a, s.contains c = true) ∧ Q b.length ∧ ∀ c ∈ b, s.contains c = true) ↔
    (∃ k m, cs.length = k + m ∧ P k ∧ Q m) ∧ ∀ c ∈ cs, s.contains c = true := by
  constructor
  · rintro ⟨a, b, rfl, ⟨first, all⟩, second, all'⟩
    exact ⟨⟨_, _, List.length_append, first, second⟩, List.forall_mem_append.2 ⟨all, all'⟩⟩
  · rintro ⟨⟨k, m, length, first, second⟩, all⟩
    rw [← List.take_append_drop k cs, List.forall_mem_append] at all
    refine ⟨cs.take k, cs.drop k, (List.take_append_drop k cs).symm, ⟨?_, all.1⟩, ?_, all.2⟩
    · rwa [List.length_take, length, Nat.min_eq_left (Nat.le_add_right k m)]
    · rwa [List.length_drop, length, Nat.add_sub_cancel_left]

theorem matches_between_chars (order : lo ≤ hi) : Matches (between lo hi (.chars s)) cs ↔
    (lo ≤ cs.length ∧ cs.length ≤ hi) ∧ ∀ c ∈ cs, s.contains c = true := by
  simp only [between, matches_cat, matches_times_chars, matches_upTo_chars]
  rw [exists_append_of_length (P := (· = lo)) (Q := (· ≤ hi - lo))]
  apply and_congr_left
  intro _
  constructor
  · rintro ⟨k, m, length, rfl, short⟩
    omega
  · rintro ⟨long, short⟩
    exact ⟨lo, cs.length - lo, by omega, rfl, by omega⟩

theorem matches_atLeast_chars : Matches (atLeast n (.chars s)) cs ↔
    n ≤ cs.length ∧ ∀ c ∈ cs, s.contains c = true := by
  have star (b : List Char) : Matches (.star (.chars s)) b ↔
      True ∧ ∀ c ∈ b, s.contains c = true := by rw [matches_star_chars, true_and]
  simp only [atLeast, matches_cat, matches_times_chars, star]
  rw [exists_append_of_length (P := (· = n)) (Q := fun _ => True)]
  apply and_congr_left
  intro _
  constructor
  · rintro ⟨k, m, length, rfl, -⟩
    omega
  · exact fun long => ⟨n, cs.length - n, by omega, rfl, trivial⟩

theorem matches_star_iff : Matches (.star r) cs ↔
    ∃ parts : List (List Char), cs = parts.flatten ∧ ∀ p ∈ parts, Matches r p := by
  constructor
  · intro matched
    generalize repeated : Regex.star r = u at matched
    induction matched with
    | starNil => exact ⟨[], rfl, List.forall_mem_nil _⟩
    | starCons first _ _ ih =>
      cases repeated
      obtain ⟨parts, rfl, all⟩ := ih rfl
      exact ⟨_ :: parts, rfl, List.forall_mem_cons.2 ⟨first, all⟩⟩
    | _ => cases repeated
  · rintro ⟨parts, rfl, all⟩
    induction parts with
    | nil => exact .starNil
    | cons p parts ih =>
      rw [List.forall_mem_cons] at all
      exact .starCons all.1 (ih all.2)

theorem matches_star_congr (same : ∀ cs, Matches r cs ↔ Matches t cs) :
    Matches (.star r) cs ↔ Matches (.star t) cs := by
  simp only [matches_star_iff, same]

/-- What stands behind the first of several parts with separators between them. -/
def following (sep : Char) (parts : List (List Char)) : List Char :=
  parts.flatMap (sep :: ·)

theorem intercalate_cons (part : List Char) :
    [sep].intercalate (part :: parts) = part ++ following sep parts := by
  induction parts generalizing part with
  | nil => simp [following]
  | cons next parts ih =>
    rw [List.intercalate_cons_cons, ih]
    simp [following]

theorem mem_intercalate (mem : c ∈ [sep].intercalate parts) : c = sep ∨ ∃ p ∈ parts, c ∈ p := by
  cases parts with
  | nil => cases mem
  | cons first parts =>
    rw [intercalate_cons, List.mem_append, following, List.mem_flatMap] at mem
    rcases mem with inside | ⟨p, others, inside⟩
    · exact .inr ⟨first, List.mem_cons_self, inside⟩
    · rw [List.mem_cons] at inside
      exact inside.imp_right fun inside => ⟨p, List.mem_cons_of_mem first others, inside⟩

theorem intercalate_cons_concat (first last : List Char) :
    [sep].intercalate (first :: parts ++ [last]) =
      first ++ (following sep parts ++ sep :: last) := by
  rw [List.cons_append, intercalate_cons, following, following, List.flatMap_append]
  simp

theorem matches_star_separated : Matches (.star (seq [Regex.char sep, r])) cs ↔
    ∃ parts, cs = following sep parts ∧ ∀ p ∈ parts, Matches r p := by
  have one (part : List Char) : Matches (seq [Regex.char sep, r]) part ↔
      ∃ p, part = sep :: p ∧ Matches r p := by
    simp only [seq, matches_cat, matches_char]
    constructor
    · rintro ⟨_, p, rfl, rfl, matched⟩
      exact ⟨p, rfl, matched⟩
    · rintro ⟨p, rfl, matched⟩
      exact ⟨[sep], p, rfl, rfl, matched⟩
  rw [matches_star_iff]
  constructor
  · rintro ⟨parts, rfl, all⟩
    induction parts with
    | nil => exact ⟨[], rfl, List.forall_mem_nil _⟩
    | cons part parts ih =>
      rw [List.forall_mem_cons, one] at all
      obtain ⟨⟨p, rfl, matched⟩, others⟩ := all
      obtain ⟨ps, rest, matched'⟩ := ih others
      refine ⟨p :: ps, ?_, List.forall_mem_cons.2 ⟨matched, matched'⟩⟩
      rw [List.flatten_cons, rest]
      rfl
  · rintro ⟨parts, rfl, all⟩
    refine ⟨parts.map (sep :: ·), rfl, ?_⟩
    intro part mem
    obtain ⟨p, pMem, rfl⟩ := List.mem_map.1 mem
    exact (one _).2 ⟨p, rfl, all p pMem⟩

end FormRules.Proofs.Matching
