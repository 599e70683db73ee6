import FormRules.Proofs.Matching.Expressions

/-!
# Matching without regard to case

Two characters are the same but for case if they fold to one. A caseless expression of fixed letters
matches what folds to them, and one without letters matches what it matches otherwise.
-/

namespace FormRules.Proofs.Matching
open Regex

variable {r t : Regex} {rs : List Regex} {s : CharSet} {c d : Char} {cs : List Char}

/-! ## Folding a character -/

/-- The lower-case letter for an ASCII letter, the Kelvin sign and the long s, and the character
itself for others. -/
def fold (c : Char) : Char :=
  if c = '\u212a' then 'k' else if c = '\u017f' then 's' else c.toLower

theorem toNat_toLower (c : Char) : c.toLower.toNat =
    if 65 ≤ c.toNat ∧ c.toNat ≤ 90 then c.toNat + 32 else c.toNat := by
  have range : (c.val ≥ 'A'.val ∧ c.val ≤ 'Z'.val) ↔ 65 ≤ c.toNat ∧ c.toNat ≤ 90 := Iff.rfl
  unfold Char.toLower
  simp only [range]
  split
  · show (c.val + ('a'.val - 'A'.val)).toNat = _
    rw [UInt32.toNat_add]
    show (c.toNat + 32) % 2 ^ 32 = c.toNat + 32
    omega
  · rfl

theorem toNat_toUpper (c : Char) : c.toUpper.toNat =
    if 97 ≤ c.toNat ∧ c.toNat ≤ 122 then c.toNat - 32 else c.toNat := by
  have range : ('a'.val ≤ c.val ∧ c.val ≤ 'z'.val) ↔ 97 ≤ c.toNat ∧ c.toNat ≤ 122 := Iff.rfl
  unfold Char.toUpper
  simp only [range]
  split
  · show (c.val + ('A'.val - 'a'.val)).toNat = _
    rw [UInt32.toNat_add]
    show (c.toNat + 4294967264) % 2 ^ 32 = c.toNat - 32
    omega
  · rfl

theorem toNat_fold (c : Char) : (fold c).toNat =
    if c.toNat = 0x212a then 107 else if c.toNat = 0x17f then 115
    else if 65 ≤ c.toNat ∧ c.toNat ≤ 90 then c.toNat + 32 else c.toNat := by
  have kelvin : c = '\u212a' ↔ c.toNat = 0x212a := Char.toNat_inj.symm
  have longS : c = '\u017f' ↔ c.toNat = 0x17f := Char.toNat_inj.symm
  simp only [fold, kelvin, longS, apply_ite Char.toNat, toNat_toLower]
  rfl

theorem fold_fold (c : Char) : fold (fold c) = fold c := by
  rw [← Char.toNat_inj, toNat_fold (fold c)]
  have code := toNat_fold c
  split_ifs at code ⊢ <;> omega

theorem isUpper_iff : c.isUpper = true ↔ 65 ≤ c.toNat ∧ c.toNat ≤ 90 :=
  decide_eq_true_iff

theorem isLower_iff : c.isLower = true ↔ 97 ≤ c.toNat ∧ c.toNat ≤ 122 :=
  Bool.and_eq_true_iff.trans (and_congr decide_eq_true_iff decide_eq_true_iff)

theorem isAlpha_iff : c.isAlpha = true ↔
    (65 ≤ c.toNat ∧ c.toNat ≤ 90) ∨ (97 ≤ c.toNat ∧ c.toNat ≤ 122) :=
  Bool.or_eq_true_iff.trans (or_congr isUpper_iff isLower_iff)

theorem mem_caseVariants : d ∈ caseVariants c ↔ fold d = fold c := by
  have code (d c : Char) : d = c ↔ d.toNat = c.toNat := Char.toNat_inj.symm
  unfold caseVariants
  simp only [Bool.or_eq_true, beq_iff_eq, isUpper_iff, isLower_iff, apply_ite (d ∈ ·),
    List.mem_cons, List.not_mem_nil, or_false, code, toNat_fold, toNat_toLower, toNat_toUpper]
  simp only [show 'k'.toNat = 107 from rfl, show 'K'.toNat = 75 from rfl,
    show 's'.toNat = 115 from rfl, show 'S'.toNat = 83 from rfl,
    show '\u212a'.toNat = 0x212a from rfl, show '\u017f'.toNat = 0x17f from rfl]
  split_ifs <;> omega

/-! ## Sets -/

def anyCase (s : CharSet) : CharSet :=
  { s with caseless := true }

theorem caseless_chars : (Regex.chars s).caseless = .chars (anyCase s) :=
  rfl

theorem contains_anyCase (plain : s.complemented = false) :
    (anyCase s).contains c = true ↔ ∃ d, fold d = fold c ∧ s.inRanges d = true := by
  show ((caseVariants c).any s.inRanges != s.complemented) = true ↔ _
  rw [plain, Bool.bne_false, List.any_eq_true]
  simp only [mem_caseVariants]

theorem contains_anyCase_append {u : CharSet} (plain : s.complemented = false)
    (plain' : u.complemented = false) : (anyCase (s ++ u)).contains c = true ↔
      (anyCase s).contains c = true ∨ (anyCase u).contains c = true := by
  have inRanges (d : Char) : (s ++ u).inRanges d = true ↔
      s.inRanges d = true ∨ u.inRanges d = true := by
    rw [← Bool.or_eq_true]
    exact Bool.eq_iff_iff.1 List.any_append
  rw [contains_anyCase (s := s ++ u) rfl, contains_anyCase plain, contains_anyCase plain']
  simp only [inRanges, and_or_left, exists_or]

def Uncased (d : Char) : Prop :=
  ∀ c, fold c = fold d → c = d

theorem uncased_iff : Uncased d ↔ d.toNat < 65 ∨ 90 < d.toNat ∧ d.toNat < 97 ∨
    122 < d.toNat ∧ d.toNat ≠ 0x17f ∧ d.toNat ≠ 0x212a := by
  constructor
  · intro uncased
    have upper : fold d.toUpper = fold d := by
      rw [← Char.toNat_inj, toNat_fold, toNat_fold, toNat_toUpper]
      split_ifs <;> omega
    have small := congrArg Char.toNat (uncased (fold d) (fold_fold d))
    have capital := congrArg Char.toNat (uncased d.toUpper upper)
    rw [toNat_fold] at small
    rw [toNat_toUpper] at capital
    split_ifs at small capital <;> omega
  · intro code c same
    rw [← Char.toNat_inj, toNat_fold, toNat_fold] at same
    rw [← Char.toNat_inj]
    split_ifs at same <;> omega

instance : DecidablePred Uncased := fun _ =>
  decidable_of_iff _ uncased_iff.symm

theorem contains_anyCase_of_uncased (uncased : ∀ d, s.inRanges d = true → Uncased d)
    (cased : s.caseless = false) : (anyCase s).contains c = s.contains c := by
  have variants : (caseVariants c).any s.inRanges = s.inRanges c := by
    rw [Bool.eq_iff_iff, List.any_eq_true]
    constructor
    · rintro ⟨d, mem, inside⟩
      rw [uncased d inside c (mem_caseVariants.1 mem).symm]
      exact inside
    · exact fun inside => ⟨c, mem_caseVariants.2 rfl, inside⟩
  show ((caseVariants c).any s.inRanges != s.complemented) = s.contains c
  rw [CharSet.contains, cased, variants]
  rfl

theorem contains_anyCase_single :
    (anyCase (.ofRange d d)).contains c = true ↔ fold c = fold d := by
  have inRanges (e : Char) : (CharSet.ofRange d d).inRanges e = true ↔ e = d := by
    rw [← contains_single, CharSet.contains]
    simp [CharSet.ofRange]
  simp only [contains_anyCase (s := .ofRange d d) rfl, inRanges, exists_eq_right]
  exact eq_comm

/-! ## Expressions -/

theorem caseless_alt : (Regex.alt r t).caseless = .alt r.caseless t.caseless :=
  rfl

theorem caseless_cat : (Regex.cat r t).caseless = .cat r.caseless t.caseless :=
  rfl

theorem caseless_star : (Regex.star r).caseless = .star r.caseless :=
  rfl

theorem caseless_seq : (seq rs).caseless = seq (rs.map caseless) := by
  induction rs with
  | nil => rfl
  | cons r rs ih =>
    cases rs with
    | nil => rfl
    | cons t rs => exact congrArg (Regex.cat r.caseless) ih

theorem matches_text_caseless {s : String} :
    Matches (text s).caseless cs ↔ cs.map fold = s.toList.map fold := by
  unfold text
  generalize s.toList = ds
  induction ds generalizing cs with
  | nil => simp [caseless, seq, matches_empty]
  | cons d ds ih =>
    rw [caseless_seq, List.map_cons, List.map_cons, matches_seq_cons, ← caseless_seq]
    simp only [ih, Regex.char, caseless_chars, matches_chars, contains_anyCase_single]
    constructor
    · rintro ⟨_, b, rfl, ⟨c, rfl, same⟩, rest⟩
      rw [List.singleton_append, List.map_cons, List.map_cons, rest, same]
    · intro folded
      obtain ⟨c, b, rfl, same, rest⟩ := List.map_eq_cons_iff.1 folded
      exact ⟨[c], b, rfl, ⟨c, rfl, same⟩, rest⟩

def beforeLetters : Regex → Bool
  | .none => true
  | .empty => true
  | .chars s => !s.caseless && s.ranges.all fun (_, hi) => hi < 'A'
  | .alt r t => beforeLetters r && beforeLetters t
  | .cat r t => beforeLetters r && beforeLetters t
  | .star r => beforeLetters r

theorem uncased_of_beforeLetters (before : beforeLetters (.chars s) = true)
    (inside : s.inRanges d = true) : Uncased d := by
  simp only [beforeLetters, Bool.and_eq_true, List.all_eq_true, decide_eq_true_iff] at before
  simp only [CharSet.inRanges, List.any_eq_true, Bool.and_eq_true, decide_eq_true_iff] at inside
  obtain ⟨⟨lo, hi⟩, mem, -, below⟩ := inside
  have least : hi < 'A' := before.2 _ mem
  have less : d.toNat < 65 := Nat.lt_of_le_of_lt below least
  exact uncased_iff.2 (.inl less)

theorem matches_caseless_iff (before : beforeLetters r = true) :
    Matches r.caseless cs ↔ Matches r cs := by
  induction r generalizing cs with
  | none => rfl
  | empty => rfl
  | chars s =>
    have cased : s.caseless = false := by simp_all [beforeLetters]
    simp only [caseless_chars, matches_chars,
      contains_anyCase_of_uncased (fun d => uncased_of_beforeLetters before) cased]
  | alt r t ihr iht =>
    simp only [beforeLetters, Bool.and_eq_true] at before
    simp only [caseless, matches_alt, ihr before.1, iht before.2]
  | cat r t ihr iht =>
    simp only [beforeLetters, Bool.and_eq_true] at before
    simp only [caseless, matches_cat, ihr before.1, iht before.2]
  | star r ih => exact matches_star_congr fun _ => ih before

theorem matches_optCaseless : Matches (opt r).caseless cs ↔ cs = [] ∨ Matches r.caseless cs := by
  rw [opt, caseless_alt, matches_alt, or_comm]
  exact or_congr_left matches_empty

/-! ## Folding a text -/

/-- The expression is written in ASCII without capital letters. -/
def lowerAscii : Regex → Bool
  | .none => true
  | .empty => true
  | .chars s => !s.caseless && !s.complemented &&
      s.ranges.all fun (lo, hi) => (hi < 'A' || 'Z' < lo) && hi.toNat < 128
  | .alt r t => lowerAscii r && lowerAscii t
  | .cat r t => lowerAscii r && lowerAscii t
  | .star r => lowerAscii r

theorem plain_of_lowerAscii (lower : lowerAscii (.chars s) = true) :
    s.caseless = false ∧ s.complemented = false := by
  simp only [lowerAscii, Bool.and_eq_true, Bool.not_eq_true'] at lower
  exact lower.1

theorem contains_of_lowerAscii (lower : lowerAscii (.chars s) = true) :
    s.contains c = s.inRanges c := by
  obtain ⟨cased, plain⟩ := plain_of_lowerAscii lower
  simp [CharSet.contains, cased, plain]

theorem fold_of_lowerAscii (lower : lowerAscii (.chars s) = true) (inside : s.inRanges d = true) :
    fold d = d ∧ d.toNat < 128 := by
  simp only [lowerAscii, Bool.and_eq_true, Bool.or_eq_true, List.all_eq_true,
    decide_eq_true_iff] at lower
  simp only [CharSet.inRanges, List.any_eq_true, Bool.and_eq_true, decide_eq_true_iff] at inside
  obtain ⟨⟨lo, hi⟩, mem, above, below⟩ := inside
  obtain ⟨noCapital, ascii⟩ := lower.2 _ mem
  have small : d.toNat < 128 := Nat.lt_of_le_of_lt below ascii
  have outside : d.toNat < 65 ∨ 90 < d.toNat :=
    noCapital.imp (fun before => Nat.lt_of_le_of_lt below before)
      fun behind => Nat.lt_of_lt_of_le behind above
  refine ⟨?_, small⟩
  rw [← Char.toNat_inj, toNat_fold]
  split_ifs <;> omega

theorem contains_anyCase_iff_fold (lower : lowerAscii (.chars s) = true) :
    (anyCase s).contains c = true ↔ s.contains (fold c) = true := by
  rw [contains_anyCase (plain_of_lowerAscii lower).2, contains_of_lowerAscii lower]
  constructor
  · rintro ⟨d, folded, inside⟩
    rwa [← folded, (fold_of_lowerAscii lower inside).1]
  · exact fun inside => ⟨fold c, fold_fold c, inside⟩

theorem matches_star_map {f : Char → Char}
    (same : ∀ cs, Matches r cs ↔ Matches t (cs.map f)) :
    Matches (.star r) cs ↔ Matches (.star t) (cs.map f) := by
  rw [matches_star_iff, matches_star_iff]
  constructor
  · rintro ⟨parts, rfl, all⟩
    refine ⟨parts.map (List.map f), List.map_flatten, ?_⟩
    exact List.forall_mem_map.2 fun p mem => (same p).1 (all p mem)
  · rintro ⟨parts, whole, all⟩
    induction parts generalizing cs with
    | nil => exact ⟨[], List.map_eq_nil_iff.1 whole, List.forall_mem_nil _⟩
    | cons p parts ih =>
      rw [List.forall_mem_cons] at all
      obtain ⟨a, b, rfl, rfl, rest⟩ := List.map_eq_append_iff.1 whole
      obtain ⟨others, rfl, matched⟩ := ih rest all.2
      exact ⟨a :: others, rfl, List.forall_mem_cons.2 ⟨(same a).2 all.1, matched⟩⟩

theorem matches_caseless_iff_fold (lower : lowerAscii r = true) :
    Matches r.caseless cs ↔ Matches r (cs.map fold) := by
  induction r generalizing cs with
  | none => exact iff_of_false not_matches_none not_matches_none
  | empty => simp [caseless, matches_empty]
  | chars s =>
    simp only [caseless_chars, matches_chars, contains_anyCase_iff_fold lower]
    constructor
    · rintro ⟨c, rfl, inside⟩
      exact ⟨fold c, rfl, inside⟩
    · rintro ⟨d, single, inside⟩
      obtain ⟨c, rfl, rfl⟩ := List.map_eq_singleton_iff.1 single
      exact ⟨c, rfl, inside⟩
  | alt r t ihr iht =>
    simp only [lowerAscii, Bool.and_eq_true] at lower
    simp only [caseless, matches_alt, ihr lower.1, iht lower.2]
  | cat r t ihr iht =>
    simp only [lowerAscii, Bool.and_eq_true] at lower
    simp only [caseless, matches_cat, ihr lower.1, iht lower.2]
    constructor
    · rintro ⟨a, b, rfl, first, second⟩
      exact ⟨a.map fold, b.map fold, List.map_append, first, second⟩
    · rintro ⟨_, _, whole, first, second⟩
      obtain ⟨a, b, rfl, rfl, rfl⟩ := List.map_eq_append_iff.1 whole
      exact ⟨a, b, rfl, first, second⟩
  | star r ih => exact matches_star_map fun _ => ih lower

theorem toNat_lt_of_inAlphabet (lower : lowerAscii r = true) (mem : inAlphabet c r = true) :
    c.toNat < 128 := by
  induction r with
  | none => cases mem
  | empty => cases mem
  | chars s =>
    rw [inAlphabet, contains_of_lowerAscii lower] at mem
    exact (fold_of_lowerAscii lower mem).2
  | alt r t ihr iht =>
    simp only [lowerAscii, Bool.and_eq_true] at lower
    simp only [inAlphabet, Bool.or_eq_true] at mem
    exact mem.elim (ihr lower.1) (iht lower.2)
  | cat r t ihr iht =>
    simp only [lowerAscii, Bool.and_eq_true] at lower
    simp only [inAlphabet, Bool.or_eq_true] at mem
    exact mem.elim (ihr lower.1) (iht lower.2)
  | star r ih => exact ih lower mem

theorem toNat_fold_lt_of_matches (lower : lowerAscii r = true) (matched : Matches r.caseless cs)
    (mem : c ∈ cs) : (fold c).toNat < 128 := by
  rw [matches_caseless_iff_fold lower] at matched
  exact toNat_lt_of_inAlphabet lower (inAlphabet_of_matches matched (List.mem_map_of_mem mem))

end FormRules.Proofs.Matching
