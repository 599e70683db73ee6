import FormRules.Proofs.Matching.Folding
import FormRules.Proofs.Matching.Octets
import FormRules.Proofs.Reading.Text

/-!
# Hosts

A host is an address of four octets or a name of at least two labels. The expressions find the parts
between the points in exactly one way.
-/

namespace FormRules.Proofs.Matching
open Regex Pattern Reading

variable {s : CharSet} {c : Char} {cs h a b : List Char}

/-! ## Characters of names -/

def IsNameLetter (c : Char) : Prop :=
  c.isAlpha = true ∨ '\u00a1' ≤ c ∧ c ≤ '\uffff'

theorem isNameLetter_iff : IsNameLetter c ↔ (65 ≤ c.toNat ∧ c.toNat ≤ 90) ∨
    (97 ≤ c.toNat ∧ c.toNat ≤ 122) ∨ (0xa1 ≤ c.toNat ∧ c.toNat ≤ 0xffff) := by
  rw [IsNameLetter, isAlpha_iff, or_assoc]
  rfl

theorem IsNameLetter.not_isDigit (letter : IsNameLetter c) : ¬c.isDigit = true := by
  intro digit
  have below : c.toNat ≤ 57 := (Char.isDigit_iff_toNat.1 digit).2
  rw [isNameLetter_iff] at letter
  omega

theorem contains_nameLetters : (anyCase Syntax.nameLetters).contains c = true ↔ IsNameLetter c := by
  have ranges (d : Char) : Syntax.nameLetters.inRanges d = true ↔
      97 ≤ d.toNat ∧ d.toNat ≤ 122 ∨ 0xa1 ≤ d.toNat ∧ d.toNat ≤ 0xffff := by
    have written : Syntax.nameLetters.ranges = [('a', 'z'), ('\u00a1', '\uffff')] := rfl
    simp only [CharSet.inRanges, written, List.any_cons, List.any_nil, Bool.or_false,
      Bool.or_eq_true, Bool.and_eq_true, decide_eq_true_iff]
    rfl
  rw [contains_anyCase rfl, isNameLetter_iff]
  simp only [ranges, ← Char.toNat_inj (c := fold _)]
  constructor
  · rintro ⟨d, same, inside⟩
    rw [toNat_fold, toNat_fold] at same
    split_ifs at same <;> omega
  · intro letter
    by_cases wide : 0xa1 ≤ c.toNat
    · exact ⟨c, rfl, by omega⟩
    · have code := toNat_fold c
      rw [if_neg (by omega), if_neg (by omega)] at code
      refine ⟨fold c, ?_, ?_⟩
      · rw [toNat_fold (fold c)]
        split_ifs at code ⊢ <;> omega
      · split_ifs at code <;> omega

def IsNameChar (c : Char) : Prop :=
  IsNameLetter c ∨ c.isDigit = true

theorem contains_digits_anyCase :
    (anyCase Syntax.digits).contains c = true ↔ c.isDigit = true := by
  rw [contains_anyCase_of_uncased (fun d => uncased_of_beforeLetters (by decide)) rfl]
  exact contains_digits

theorem contains_nameChars : (anyCase Syntax.nameChars).contains c = true ↔ IsNameChar c := by
  rw [Syntax.nameChars, contains_anyCase_append rfl rfl, contains_nameLetters,
    contains_digits_anyCase, IsNameChar]

theorem not_isNameChar (other : (anyCase Syntax.nameChars).contains c = false) :
    ¬IsNameChar c := by
  rw [← contains_nameChars, other]
  exact Bool.false_ne_true

theorem not_isNameChar_dash : ¬IsNameChar '-' :=
  not_isNameChar (by decide)

/-! ## Labels -/

/-- A label of a name: dashes stand only between other characters. -/
structure Label (cs : List Char) : Prop where
  filled : cs ≠ []
  chars : ∀ c ∈ cs, IsNameChar c ∨ c = '-'
  first : cs.head? ≠ some '-'
  last : cs.getLast? ≠ some '-'

/-- The part of a label in front of its last characters: each group of dashes stands behind another
character. -/
def labelStart : Regex :=
  (Regex.star (seq [.chars Syntax.nameChars, .star (Regex.char '-')])).caseless

theorem matches_dashes : Matches (Regex.star (Regex.char '-')).caseless cs ↔ ∀ c ∈ cs, c = '-' := by
  rw [matches_caseless_iff (by decide), Regex.char, matches_star_chars]
  simp only [contains_single]

theorem matches_labelStart_cons (char : IsNameChar c) (dashes : ∀ d ∈ a, d = '-')
    (matched : Matches labelStart b) : Matches labelStart (c :: (a ++ b)) := by
  have group : Matches (seq [.chars Syntax.nameChars, .star (Regex.char '-')]).caseless (c :: a) :=
    .cat (.chars (contains_nameChars.2 char)) (matches_dashes.2 dashes)
  exact .starCons group matched

theorem exists_labelStart (chars : ∀ c ∈ cs, IsNameChar c ∨ c = '-') :
    ∃ a b, cs = a ++ b ∧ (∀ d ∈ a, d = '-') ∧ Matches labelStart b := by
  induction cs with
  | nil => exact ⟨[], [], rfl, List.forall_mem_nil _, .starNil⟩
  | cons c cs ih =>
    rw [List.forall_mem_cons] at chars
    obtain ⟨a, b, rfl, dashes, matched⟩ := ih chars.2
    rcases chars.1 with char | dash
    · exact ⟨[], _, rfl, List.forall_mem_nil _, matches_labelStart_cons char dashes matched⟩
    · exact ⟨c :: a, b, rfl, List.forall_mem_cons.2 ⟨dash, dashes⟩, matched⟩

theorem matches_labelStart : Matches labelStart cs ↔
    (∀ c ∈ cs, IsNameChar c ∨ c = '-') ∧ cs.head? ≠ some '-' := by
  constructor
  · intro matched
    obtain ⟨groups, rfl, all⟩ := matches_star_iff.1 matched
    have group (p) (mem : p ∈ groups) :
        ∃ c a, p = c :: a ∧ IsNameChar c ∧ ∀ d ∈ a, d = '-' := by
      obtain ⟨_, a, rfl, matched, dashes⟩ := matches_cat.1 (all p mem)
      obtain ⟨c, rfl, contains⟩ := matches_chars.1 matched
      exact ⟨c, a, rfl, contains_nameChars.1 contains, matches_dashes.1 dashes⟩
    constructor
    · intro c inside
      obtain ⟨p, mem, inside⟩ := List.mem_flatten.1 inside
      obtain ⟨d, a, rfl, char, dashes⟩ := group p mem
      rcases List.mem_cons.1 inside with rfl | inside
      · exact .inl char
      · exact .inr (dashes c inside)
    · cases groups with
      | nil => nofun
      | cons p groups =>
        obtain ⟨d, a, rfl, char, -⟩ := group p List.mem_cons_self
        intro dash
        cases dash
        exact not_isNameChar_dash char
  · rintro ⟨chars, first⟩
    obtain ⟨a, b, rfl, dashes, matched⟩ := exists_labelStart chars
    cases a with
    | nil => exact matched
    | cons d a => exact absurd (congrArg some (dashes d List.mem_cons_self)) first

theorem matches_nameLabel : Matches Syntax.nameLabel.caseless cs ↔ Label cs := by
  have cut : Matches Syntax.nameLabel.caseless cs ↔
      ∃ a b, cs = a ++ b ∧ Matches labelStart a ∧
        Matches (plus (.chars (anyCase Syntax.nameChars))) b := matches_cat
  simp only [cut, matches_labelStart, matches_plus_chars, contains_nameChars]
  constructor
  · rintro ⟨a, b, rfl, ⟨chars, first⟩, filled, ending⟩
    refine ⟨List.append_ne_nil_of_right_ne_nil a filled, ?_, ?_, ?_⟩
    · exact List.forall_mem_append.2 ⟨chars, fun c mem => .inl (ending c mem)⟩
    · cases a with
      | nil =>
        intro dash
        exact not_isNameChar_dash (ending '-' (List.mem_of_mem_head? dash))
      | cons c a => exact first
    · rw [List.getLast?_append_of_ne_nil a filled]
      intro dash
      exact not_isNameChar_dash (ending '-' (List.mem_of_getLast? dash))
  · rintro ⟨filled, chars, first, last⟩
    obtain ⟨start, c, rfl⟩ := List.eq_nil_or_concat cs |>.resolve_left filled
    rw [List.concat_eq_append] at *
    rw [List.forall_mem_append, List.forall_mem_singleton] at chars
    rw [List.getLast?_concat] at last
    have char : IsNameChar c := chars.2.resolve_right fun dash => last (congrArg some dash)
    refine ⟨start, [c], rfl, ⟨chars.1, ?_⟩, List.cons_ne_nil c [], List.forall_mem_singleton.2 char⟩
    cases start with
    | nil => nofun
    | cons d start => exact first

/-! ## Parts between points -/

section Parts
variable {r first label top : Regex}

theorem matches_point : Matches (Regex.char '.').caseless cs ↔ cs = ['.'] := by
  rw [matches_caseless_iff (by decide), matches_char]

theorem matches_following : Matches (Regex.star (seq [Regex.char '.', r])).caseless cs ↔
    ∃ parts, cs = following '.' parts ∧ ∀ p ∈ parts, Matches r.caseless p := by
  have group (p : List Char) : Matches (seq [Regex.char '.', r]).caseless p ↔
      Matches (seq [Regex.char '.', r.caseless]) p := by
    simp only [seq, caseless_cat, matches_cat, matches_point, matches_char]
  rw [caseless_star, matches_star_congr group, matches_star_separated]

theorem matches_parts : Matches (Regex.cat r (.star (seq [Regex.char '.', r]))).caseless cs ↔
    ∃ parts, parts ≠ [] ∧ cs = ['.'].intercalate parts ∧ ∀ p ∈ parts, Matches r.caseless p := by
  rw [caseless_cat, matches_cat]
  simp only [matches_following]
  constructor
  · rintro ⟨first, _, rfl, matched, parts, rfl, others⟩
    exact ⟨first :: parts, List.cons_ne_nil _ _, (intercalate_cons first).symm,
      List.forall_mem_cons.2 ⟨matched, others⟩⟩
  · rintro ⟨parts, some, rfl, matched⟩
    obtain ⟨first, parts, rfl⟩ := List.exists_cons_of_ne_nil some
    rw [List.forall_mem_cons] at matched
    exact ⟨first, _, intercalate_cons first, matched.1, parts, rfl, matched.2⟩

theorem matches_dotted : Matches (seq [first, .star (seq [Regex.char '.', label]),
      Regex.char '.', top]).caseless cs ↔
    ∃ l labels t, cs = ['.'].intercalate (l :: labels ++ [t]) ∧ Matches first.caseless l ∧
      (∀ p ∈ labels, Matches label.caseless p) ∧ Matches top.caseless t := by
  simp only [seq, caseless_cat, matches_cat, matches_point]
  constructor
  · rintro ⟨l, _, rfl, start, _, _, rfl, others, _, t, rfl, rfl, last⟩
    obtain ⟨labels, rfl, matched⟩ := matches_following.1 others
    exact ⟨l, labels, t, (intercalate_cons_concat l t).symm, start, matched, last⟩
  · rintro ⟨l, labels, t, rfl, start, matched, last⟩
    exact ⟨l, _, intercalate_cons_concat l t, start, _, _, rfl,
      matches_following.2 ⟨labels, rfl, matched⟩, ['.'], t, rfl, rfl, last⟩

end Parts

/-! ## Names and addresses -/

structure TopLabel (cs : List Char) : Prop where
  long : 2 ≤ cs.length
  letters : ∀ c ∈ cs, IsNameLetter c

theorem matches_topLabel :
    Matches (atLeast 2 (.chars Syntax.nameLetters)).caseless cs ↔ TopLabel cs := by
  have same : (atLeast 2 (.chars Syntax.nameLetters)).caseless =
      atLeast 2 (.chars (anyCase Syntax.nameLetters)) := rfl
  rw [same, matches_atLeast_chars]
  simp only [contains_nameLetters]
  exact ⟨fun ⟨long, letters⟩ => ⟨long, letters⟩, fun ⟨long, letters⟩ => ⟨long, letters⟩⟩

inductive Host (h : List Char) : Prop where
  | address {b c : List Char} {i k : Nat}
      (parts : Text.splitOn '.' h = [numeral i, b, c, numeral k]) (first : 1 ≤ i ∧ i ≤ 223)
      (second : MiddleOctet b) (third : MiddleOctet c) (last : 1 ≤ k ∧ k ≤ 254) : Host h
  | name {labels : List (List Char)} {top : List Char}
      (parts : Text.splitOn '.' h = labels ++ [top]) (some : labels ≠ [])
      (label : ∀ l ∈ labels, Label l) (last : TopLabel top) : Host h

theorem point_not_mem_of_digits (digits : Digits cs) : '.' ∉ cs := by
  intro mem
  cases digits '.' mem

theorem not_isNameChar_point : ¬IsNameChar '.' :=
  not_isNameChar (by decide)

theorem Label.point_not_mem (label : Label cs) : '.' ∉ cs := by
  intro mem
  rcases label.chars '.' mem with char | dash
  · exact not_isNameChar_point char
  · cases dash

theorem TopLabel.point_not_mem (top : TopLabel cs) : '.' ∉ cs := fun mem =>
  not_isNameChar_point (.inl (top.letters '.' mem))

theorem MiddleOctet.digits (middle : MiddleOctet cs) : Digits cs := by
  rcases middle with ⟨-, digits⟩ | ⟨n, -, rfl⟩
  · exact digits
  · exact digits_toDigits n

theorem Host.chars (host : Host h) (mem : c ∈ h) : IsNameChar c ∨ c = '-' ∨ c = '.' := by
  cases host with
  | address parts first second third last =>
    rw [(splitOn_eq_iff.1 parts).2.1] at mem
    rcases mem_intercalate mem with point | ⟨p, part, inside⟩
    · exact .inr (.inr point)
    · have digits : Digits p := by
        simp only [List.mem_cons, List.not_mem_nil, or_false] at part
        rcases part with rfl | rfl | rfl | rfl
        · exact digits_toDigits _
        · exact second.digits
        · exact third.digits
        · exact digits_toDigits _
      exact .inl (.inr (digits c inside))
  | @name labels top parts some label last =>
    rw [(splitOn_eq_iff.1 parts).2.1] at mem
    rcases mem_intercalate mem with point | ⟨p, part, inside⟩
    · exact .inr (.inr point)
    · rw [List.mem_append, List.mem_singleton] at part
      rcases part with part | rfl
      · exact ((label p part).chars c inside).imp_right .inl
      · exact .inl (.inl (last.letters c inside))

theorem Host.not_mem (host : Host h) (other : (anyCase Syntax.nameChars).contains c = false)
    (dash : c ≠ '-') (point : c ≠ '.') : c ∉ h := by
  intro mem
  rcases host.chars mem with char | same | same
  · exact not_isNameChar other char
  · exact dash same
  · exact point same

theorem Host.whole (host : Host h) : ':' ∉ h ∧ '/' ∉ h :=
  ⟨host.not_mem (by decide) (by decide) (by decide),
    host.not_mem (by decide) (by decide) (by decide)⟩

theorem matches_publicQuad : Matches Syntax.publicQuad.caseless h ↔
    ∃ i b c k, h = ['.'].intercalate [numeral i, b, c, numeral k] ∧ (1 ≤ i ∧ i ≤ 223) ∧
      (MiddleOctet b ∧ MiddleOctet c) ∧ 1 ≤ k ∧ k ≤ 254 := by
  rw [matches_caseless_iff (by decide)]
  simp only [Syntax.publicQuad, seq, times, matches_cat, matches_char, matches_firstOctet,
    matches_middleOctet, matches_lastOctet]
  constructor
  · rintro ⟨_, _, rfl, ⟨i, first, rfl⟩, _, _, rfl, ⟨_, _, rfl, ⟨_, b, rfl, rfl, second⟩,
      _, c, rfl, rfl, third⟩, _, _, rfl, rfl, k, last, rfl⟩
    exact ⟨i, b, c, k, by simp, first, ⟨second, third⟩, last⟩
  · rintro ⟨i, b, c, k, rfl, first, ⟨second, third⟩, last⟩
    exact ⟨numeral i, _, by simp, ⟨i, first, rfl⟩, _, _, rfl, ⟨_, _, rfl,
      ⟨['.'], b, rfl, rfl, second⟩, ['.'], c, rfl, rfl, third⟩, ['.'], _, rfl, rfl, k, last, rfl⟩

theorem matches_hostName : Matches Syntax.hostName.caseless h ↔
    ∃ labels top, labels ≠ [] ∧ h = ['.'].intercalate (labels ++ [top]) ∧
      (∀ l ∈ labels, Label l) ∧ TopLabel top := by
  rw [Syntax.hostName, matches_dotted]
  simp only [matches_nameLabel, matches_topLabel]
  constructor
  · rintro ⟨first, labels, top, same, label, others, last⟩
    exact ⟨first :: labels, top, List.cons_ne_nil _ _, same,
      List.forall_mem_cons.2 ⟨label, others⟩, last⟩
  · rintro ⟨labels, top, some, same, label, last⟩
    obtain ⟨first, labels, rfl⟩ := List.exists_cons_of_ne_nil some
    rw [List.forall_mem_cons] at label
    exact ⟨first, labels, top, same, label.1, label.2, last⟩

theorem matches_host :
    Matches (Regex.alt Syntax.publicQuad Syntax.hostName).caseless h ↔ Host h := by
  rw [caseless_alt, matches_alt, matches_publicQuad, matches_hostName]
  constructor
  · rintro (⟨i, b, c, k, rfl, first, ⟨second, third⟩, last⟩ | ⟨labels, top, some, rfl, label, last⟩)
    · refine .address (splitOn_eq_iff.2 ⟨by simp, rfl, ?_⟩) first second third last
      simp only [List.forall_mem_cons, List.not_mem_nil, false_imp_iff, implies_true, and_true]
      exact ⟨point_not_mem_of_digits (digits_toDigits i), point_not_mem_of_digits second.digits,
        point_not_mem_of_digits third.digits, point_not_mem_of_digits (digits_toDigits k)⟩
    · refine .name (splitOn_eq_iff.2 ⟨by simp, rfl, ?_⟩) some label last
      rw [List.forall_mem_append, List.forall_mem_singleton]
      exact ⟨fun l mem => (label l mem).point_not_mem, last.point_not_mem⟩
  · rintro (⟨parts, first, second, third, last⟩ | ⟨parts, some, label, last⟩)
    · exact .inl ⟨_, _, _, _, (splitOn_eq_iff.1 parts).2.1, first, ⟨second, third⟩, last⟩
    · exact .inr ⟨_, _, some, (splitOn_eq_iff.1 parts).2.1, label, last⟩

end FormRules.Proofs.Matching
