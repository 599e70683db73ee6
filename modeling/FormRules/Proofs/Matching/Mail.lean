import FormRules.Proofs.Matching.Hosts
import FormRules.Proofs.Matching.PrivateHosts

/-!
# Mail addresses

A mail address has one at sign, with atoms between points in front of it, and behind it four numbers
or labels under a top-level domain, perhaps with a port. Letters count without regard to case.
-/

namespace FormRules.Proofs.Matching
open Regex Pattern Reading

variable {c : Char} {cs h : List Char}

/-! ## Characters -/

def IsLetter (c : Char) : Prop :=
  (fold c).isLower = true

instance : DecidablePred IsLetter := fun _ =>
  inferInstanceAs (Decidable (_ = true))

def IsAtomChar (c : Char) : Prop :=
  IsLetter c ∨ c.isDigit = true ∨ c ∈ "-~!$%^&*_=+\x7d\x7b'?".toList

def IsHostChar (c : Char) : Prop :=
  IsLetter c ∨ c.isDigit = true ∨ c = '-' ∨ c = '_'

theorem contains_lowers : (anyCase Syntax.lowers).contains c = true ↔ IsLetter c := by
  rw [contains_anyCase_iff_fold (by decide), Syntax.lowers, contains_ofRange, IsLetter, isLower_iff]
  rfl

theorem contains_signs {signs : String} (uncased : ∀ d ∈ signs.toList, Uncased d) :
    (anyCase (.ofString signs)).contains c = true ↔ c ∈ signs.toList := by
  rw [contains_anyCase_of_uncased _ rfl, contains_ofString]
  intro d inside
  apply uncased
  rw [← contains_ofString, CharSet.contains]
  simpa [CharSet.ofString] using inside

theorem contains_mailChars {signs : String} (uncased : ∀ d ∈ signs.toList, Uncased d) :
    (anyCase (Syntax.lowers ++ Syntax.digits ++ .ofString signs)).contains c = true ↔
      IsLetter c ∨ c.isDigit = true ∨ c ∈ signs.toList := by
  rw [contains_anyCase_append rfl rfl, contains_anyCase_append rfl rfl, contains_lowers,
    contains_digits_anyCase, contains_signs uncased, or_assoc]

theorem contains_atomChars : (anyCase Syntax.atomChars).contains c = true ↔ IsAtomChar c :=
  contains_mailChars (by simp [uncased_iff])

theorem contains_hostChars : (anyCase Syntax.hostChars).contains c = true ↔ IsHostChar c := by
  rw [Syntax.hostChars, contains_mailChars (by simp [uncased_iff])]
  simp [IsHostChar]

/-! ## Labels -/

def Atom (cs : List Char) : Prop :=
  cs ≠ [] ∧ ∀ c ∈ cs, IsAtomChar c

def MailLabel (cs : List Char) : Prop :=
  cs ≠ [] ∧ ∀ c ∈ cs, IsHostChar c

def genericDomains : List String :=
  ["aero", "arpa", "biz", "com", "coop", "edu", "gov", "info", "int", "mil", "museum", "name",
    "net", "org", "pro", "travel", "mobi"]

def TopDomain (cs : List Char) : Prop :=
  (∃ domain ∈ genericDomains, cs.map fold = domain.toList) ∨
    cs.length = 2 ∧ ∀ c ∈ cs, IsLetter c

theorem matches_plus_caseless {s : CharSet} {P : Char → Prop}
    (admits : ∀ c, (anyCase s).contains c = true ↔ P c) :
    Matches (plus (.chars s)).caseless cs ↔ cs ≠ [] ∧ ∀ c ∈ cs, P c := by
  have same : (plus (.chars s)).caseless = plus (.chars (anyCase s)) := rfl
  rw [same, matches_plus_chars]
  simp only [admits]

theorem matches_atom : Matches (plus (.chars Syntax.atomChars)).caseless cs ↔ Atom cs :=
  matches_plus_caseless fun _ => contains_atomChars

theorem matches_mailLabel : Matches (plus (.chars Syntax.hostChars)).caseless cs ↔ MailLabel cs :=
  matches_plus_caseless fun _ => contains_hostChars

/-- The first label of a name: the expression tells its first character from the others. -/
def firstLabel : Regex :=
  .cat (.chars (Syntax.lowers ++ Syntax.digits ++ .ofString "_")) (.star (.chars Syntax.hostChars))

theorem matches_firstLabel :
    Matches firstLabel.caseless cs ↔ MailLabel cs ∧ cs.head? ≠ some '-' := by
  have start (c : Char) : (anyCase (Syntax.lowers ++ Syntax.digits ++ .ofString "_")).contains c =
      true ↔ IsHostChar c ∧ c ≠ '-' := by
    rw [contains_mailChars (by simp [uncased_iff]), IsHostChar]
    constructor
    · intro start
      have other : c ≠ '-' := by
        rintro rfl
        revert start
        decide
      exact ⟨start.imp_right (Or.imp_right fun sign => .inr (List.mem_singleton.1 sign)), other⟩
    · rintro ⟨letter | digit | dash | sign, other⟩
      · exact .inl letter
      · exact .inr (.inl digit)
      · exact absurd dash other
      · exact .inr (.inr (List.mem_singleton.2 sign))
  simp only [firstLabel, caseless_cat, caseless_star, caseless_chars, matches_cat, matches_chars,
    matches_star_chars, start, contains_hostChars]
  constructor
  · rintro ⟨_, rest, rfl, ⟨c, rfl, char, other⟩, chars⟩
    refine ⟨⟨List.cons_ne_nil _ _, List.forall_mem_cons.2 ⟨char, chars⟩⟩, ?_⟩
    simpa using other
  · rintro ⟨⟨filled, chars⟩, other⟩
    cases cs with
    | nil => exact absurd rfl filled
    | cons c cs =>
      rw [List.forall_mem_cons] at chars
      exact ⟨[c], cs, rfl, ⟨c, rfl, chars.1, by simpa using other⟩, chars.2⟩

theorem caseless_anyOf {rs : List Regex} : (anyOf rs).caseless = anyOf (rs.map caseless) := by
  induction rs with
  | nil => rfl
  | cons r rs ih =>
    cases rs with
    | nil => rfl
    | cons t rs => exact congrArg (Regex.alt r.caseless) ih

theorem matches_topDomain : Matches Syntax.topLevelDomain.caseless cs ↔ TopDomain cs := by
  have listed : Syntax.topLevelDomain =
      anyOf (genericDomains.map text ++ [times 2 (.chars Syntax.lowers)]) := rfl
  have small : ∀ domain ∈ genericDomains, domain.toList.map fold = domain.toList := by decide
  have letters : Matches (times 2 (.chars Syntax.lowers)).caseless cs ↔
      cs.length = 2 ∧ ∀ c ∈ cs, IsLetter c := by
    have same : (times 2 (.chars Syntax.lowers)).caseless =
        times 2 (.chars (anyCase Syntax.lowers)) := rfl
    rw [same, matches_times_chars]
    simp only [contains_lowers]
  rw [listed, caseless_anyOf, matches_anyOf, List.map_append, List.map_map]
  simp only [List.mem_append, List.mem_map, List.map_cons, List.map_nil, List.mem_singleton,
    or_and_right, exists_or, exists_eq_left, letters, TopDomain]
  apply or_congr_left
  constructor
  · rintro ⟨_, ⟨domain, known, rfl⟩, matched⟩
    exact ⟨domain, known, (matches_text_caseless.1 matched).trans (small domain known)⟩
  · rintro ⟨domain, known, same⟩
    exact ⟨_, ⟨domain, known, rfl⟩, matches_text_caseless.2 (same.trans (small domain known).symm)⟩

/-! ## Hosts -/

inductive MailHost (h : List Char) : Prop where
  | address {a b c d : List Char} (parts : Text.splitOn '.' h = [a, b, c, d])
      (groups : Group a ∧ Group b ∧ Group c ∧ Group d) : MailHost h
  | name {first top : List Char} {labels : List (List Char)}
      (parts : Text.splitOn '.' h = first :: labels ++ [top])
      (label : ∀ l ∈ first :: labels, MailLabel l) (start : first.head? ≠ some '-')
      (last : TopDomain top) : MailHost h

theorem matches_mailDomain : Matches Syntax.mailDomain.caseless h ↔
    ∃ first labels top, h = ['.'].intercalate (first :: labels ++ [top]) ∧
      (MailLabel first ∧ first.head? ≠ some '-') ∧ (∀ l ∈ labels, MailLabel l) ∧ TopDomain top := by
  have cut : Matches Syntax.mailDomain.caseless h ↔ Matches (seq [firstLabel,
      .star (seq [Regex.char '.', plus (.chars Syntax.hostChars)]), Regex.char '.',
      Syntax.topLevelDomain]).caseless h := matches_cat_assoc
  rw [cut, matches_dotted]
  simp only [matches_firstLabel, matches_mailLabel, matches_topDomain]

theorem matches_group : Matches Syntax.upToThreeDigits cs ↔ Group cs :=
  matches_between_digit (by decide)

theorem matches_mailQuad : Matches Syntax.mailQuad.caseless h ↔
    ∃ a b c d, h = ['.'].intercalate [a, b, c, d] ∧ Group a ∧ Group b ∧ Group c ∧ Group d := by
  rw [matches_caseless_iff (by decide)]
  simp only [Syntax.mailQuad, seq, matches_cat, matches_char, matches_group]
  constructor
  · rintro ⟨a, _, rfl, first, _, _, rfl, rfl, b, _, rfl, second, _, _, rfl, rfl, c, _, rfl, third,
      _, d, rfl, rfl, last⟩
    exact ⟨a, b, c, d, by simp, first, second, third, last⟩
  · rintro ⟨a, b, c, d, rfl, first, second, third, last⟩
    exact ⟨a, _, by simp, first, ['.'], _, rfl, rfl, b, _, rfl, second, ['.'], _, rfl, rfl, c, _,
      rfl, third, ['.'], d, rfl, rfl, last⟩

theorem matches_mailHost :
    Matches (Regex.alt Syntax.mailDomain Syntax.mailQuad).caseless h ↔ MailHost h := by
  rw [caseless_alt, matches_alt, matches_mailDomain, matches_mailQuad]
  constructor
  · rintro (⟨first, labels, top, rfl, ⟨label, start⟩, others, last⟩ | ⟨a, b, c, d, rfl, groups⟩)
    · have all := List.forall_mem_cons.2 ⟨label, others⟩
      refine .name (splitOn_eq_iff.2 ⟨by simp, rfl, ?_⟩) all start last
      rw [List.forall_mem_append, List.forall_mem_singleton]
      exact ⟨fun l mem => not_mem_of_matches (by decide) (matches_mailLabel.2 (all l mem)),
        not_mem_of_matches (by decide) (matches_topDomain.2 last)⟩
    · refine .address (splitOn_eq_iff.2 ⟨by simp, rfl, ?_⟩) groups
      obtain ⟨first, second, third, last⟩ := groups
      simp only [List.forall_mem_cons, List.not_mem_nil, false_imp_iff, implies_true, and_true]
      exact ⟨point_not_mem_of_digits first.2, point_not_mem_of_digits second.2,
        point_not_mem_of_digits third.2, point_not_mem_of_digits last.2⟩
  · rintro (⟨parts, groups⟩ | ⟨parts, label, start, last⟩)
    · exact .inr ⟨_, _, _, _, (splitOn_eq_iff.1 parts).2.1, groups⟩
    · rw [List.forall_mem_cons] at label
      exact .inl ⟨_, _, _, (splitOn_eq_iff.1 parts).2.1, ⟨label.1, start⟩, label.2, last⟩

/-! ## Addresses -/

structure MailParts where
  sender : List Char
  host : List Char
  port : List Char

def MailPort (cs : List Char) : Prop :=
  ∃ ds, cs = ':' :: ds ∧ (1 ≤ ds.length ∧ ds.length ≤ 5) ∧ Digits ds

structure MailParts.WellFormed (m : MailParts) : Prop where
  atoms : ∀ atom ∈ Text.splitOn '.' m.sender, Atom atom
  host : MailHost m.host
  port : m.port = [] ∨ MailPort m.port

theorem matches_sender : Matches (Regex.cat (plus (.chars Syntax.atomChars))
      (.star (seq [Regex.char '.', plus (.chars Syntax.atomChars)]))).caseless cs ↔
    ∀ atom ∈ Text.splitOn '.' cs, Atom atom := by
  rw [matches_parts]
  simp only [matches_atom]
  constructor
  · rintro ⟨parts, some, rfl, atoms⟩
    rwa [splitOn_intercalate _ some]
    exact fun atom mem => not_mem_of_matches (by decide) (matches_atom.2 (atoms atom mem))
  · intro atoms
    obtain ⟨some, joined, -⟩ := splitOn_eq_iff.1 (rfl : Text.splitOn '.' cs = _)
    exact ⟨_, some, joined, atoms⟩

theorem matches_mailPort :
    Matches (seq [Regex.char ':', between 1 5 digit]).caseless cs ↔ MailPort cs := by
  rw [matches_caseless_iff (by decide), matches_colonDigits (by decide), MailPort]

theorem matches_email : Matches Syntax.email cs ↔ ∃ m : MailParts,
    Text.splitOn '@' cs = [m.sender, m.host ++ m.port] ∧ m.WellFormed := by
  have pieces : Matches Syntax.email cs ↔ Matches (.cat (Regex.cat (plus (.chars Syntax.atomChars))
      (.star (seq [Regex.char '.', plus (.chars Syntax.atomChars)]))).caseless
      (.cat (Regex.char '@').caseless
        (.cat (Regex.alt Syntax.mailDomain Syntax.mailQuad).caseless
          (opt (seq [Regex.char ':', between 1 5 digit])).caseless))) cs := matches_cat_assoc
  have sign (b : List Char) : Matches (Regex.char '@').caseless b ↔ b = ['@'] := by
    rw [matches_caseless_iff (by decide), matches_char]
  rw [pieces]
  constructor
  · intro matched
    obtain ⟨sender, _, rfl, first, matched⟩ := matches_cat.1 matched
    obtain ⟨_, domain, rfl, second, domainMatched⟩ := matches_cat.1 matched
    obtain ⟨host, port, rfl, third, last⟩ := matches_cat.1 domainMatched
    rw [sign] at second
    refine ⟨⟨sender, host, port⟩, splitOn_eq_iff.2 ⟨by simp, by simp [second], ?_⟩, ?_⟩
    · have noSign : '@' ∉ sender := not_mem_of_matches (by decide) first
      have noOther : '@' ∉ host ++ port := not_mem_of_matches (by decide) domainMatched
      rw [List.forall_mem_cons, List.forall_mem_singleton]
      exact ⟨noSign, noOther⟩
    · rw [matches_sender] at first
      rw [matches_mailHost] at third
      rw [matches_optCaseless, matches_mailPort] at last
      exact ⟨first, third, last⟩
  · rintro ⟨⟨sender, host, port⟩, parts, atoms, hostForm, portForm⟩
    obtain ⟨-, joined, -⟩ := splitOn_eq_iff.1 parts
    rw [← matches_sender] at atoms
    rw [← matches_mailHost] at hostForm
    rw [← matches_mailPort, ← matches_optCaseless] at portForm
    have whole : cs = sender ++ (['@'] ++ (host ++ port)) := by simp [joined]
    rw [whole]
    exact .cat atoms (.cat ((sign _).2 rfl) (.cat hostForm portForm))

theorem accepts_email_iff : Pattern.email.acceptsChars cs = true ↔ Matches Syntax.email cs :=
  acceptsChars_iff_matches fun _ => rfl

theorem email_splits_at_one_sign (v : String) : Pattern.email.accepts v = true ↔
    ∃ m : MailParts, Text.splitOn '@' v.toList = [m.sender, m.host ++ m.port] ∧ m.WellFormed :=
  accepts_email_iff.trans matches_email

end FormRules.Proofs.Matching
