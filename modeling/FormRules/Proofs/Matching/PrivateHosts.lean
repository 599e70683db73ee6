import FormRules.Proofs.Matching.Octets

/-!
# Private hosts

A host is private if it starts with an address of a loopback, link-local or private network,
whatever stands behind the address.
-/

namespace FormRules.Proofs.Matching
open Regex Pattern

variable {cs h a b c d : List Char} {n : Nat}

def Group (cs : List Char) : Prop :=
  (1 ≤ cs.length ∧ cs.length ≤ 3) ∧ Digits cs

/-- The first two parts of an address in a network that is not public. -/
inductive PrivateNetwork : List Char → List Char → Prop where
  | private8 {b : List Char} (group : Group b) : PrivateNetwork (numeral 10) b
  | loopback {b : List Char} (group : Group b) : PrivateNetwork (numeral 127) b
  | linkLocal : PrivateNetwork (numeral 169) (numeral 254)
  | private12 {n : Nat} (range : 16 ≤ n ∧ n ≤ 31) : PrivateNetwork (numeral 172) (numeral n)
  | private16 : PrivateNetwork (numeral 192) (numeral 168)

def BeginsPrivate (h : List Char) : Prop :=
  ∃ a b c d, (PrivateNetwork a b ∧ Group c ∧ Group d) ∧ ['.'].intercalate [a, b, c, d] <+: h

theorem PrivateNetwork.digits (network : PrivateNetwork a b) : Digits a ∧ Digits b := by
  cases network with
  | private8 group => exact ⟨digits_toDigits _, group.2⟩
  | loopback group => exact ⟨digits_toDigits _, group.2⟩
  | linkLocal => exact ⟨digits_toDigits _, digits_toDigits _⟩
  | private12 range => exact ⟨digits_toDigits _, digits_toDigits _⟩
  | private16 => exact ⟨digits_toDigits _, digits_toDigits _⟩

theorem PrivateNetwork.ne_nil (network : PrivateNetwork a b) : a ≠ [] := by
  cases network <;> exact Nat.toDigits_ne_nil

theorem BeginsPrivate.isDigit {e : Char} (begins : BeginsPrivate (e :: h)) : e.isDigit = true := by
  obtain ⟨a, b, c, d, ⟨network, -⟩, starts⟩ := begins
  obtain ⟨first, more, rfl⟩ := List.exists_cons_of_ne_nil network.ne_nil
  rw [intercalate_cons, List.cons_append, List.cons_prefix_cons] at starts
  rw [← starts.1]
  exact network.digits.1 first List.mem_cons_self

theorem matches_dottedDigits :
    Matches Syntax.dottedDigits cs ↔ ∃ g, cs = '.' :: g ∧ Group g := by
  simp only [Syntax.dottedDigits, Syntax.upToThreeDigits, seq, matches_cat, matches_char,
    matches_between_digit (show 1 ≤ 3 by decide), Group]
  constructor
  · rintro ⟨_, g, rfl, rfl, group⟩
    exact ⟨g, rfl, group⟩
  · rintro ⟨g, rfl, group⟩
    exact ⟨['.'], g, rfl, rfl, group⟩

theorem matches_times_dottedDigits : Matches (times n Syntax.dottedDigits) cs ↔
    ∃ parts, parts.length = n ∧ cs = following '.' parts ∧ ∀ g ∈ parts, Group g := by
  induction n generalizing cs with
  | zero => simp [times, matches_empty, following]
  | succ n ih =>
    simp only [matches_times_succ, matches_dottedDigits, ih]
    constructor
    · rintro ⟨_, _, rfl, ⟨g, rfl, group⟩, parts, rfl, rfl, groups⟩
      exact ⟨g :: parts, rfl, rfl, List.forall_mem_cons.2 ⟨group, groups⟩⟩
    · rintro ⟨parts, length, rfl, groups⟩
      obtain ⟨g, parts, rfl⟩ := List.exists_cons_of_length_eq_add_one length
      rw [List.forall_mem_cons] at groups
      exact ⟨'.' :: g, _, rfl, ⟨g, rfl, groups.1⟩, parts, Nat.succ.inj length, rfl, groups.2⟩

theorem matches_twoGroups : Matches (times 2 Syntax.dottedDigits) cs ↔
    ∃ c d, cs = following '.' [c, d] ∧ Group c ∧ Group d := by
  rw [matches_times_dottedDigits]
  constructor
  · rintro ⟨parts, two, rfl, groups⟩
    obtain ⟨c, d, rfl⟩ := List.length_eq_two.1 two
    exact ⟨c, d, rfl, by simpa using groups⟩
  · rintro ⟨c, d, rfl, groups⟩
    exact ⟨[c, d], rfl, rfl, by simpa using groups⟩

theorem matches_threeGroups : Matches (times 3 Syntax.dottedDigits) cs ↔
    ∃ b c d, cs = following '.' [b, c, d] ∧ Group b ∧ Group c ∧ Group d := by
  rw [matches_times_dottedDigits]
  constructor
  · rintro ⟨parts, three, rfl, groups⟩
    obtain ⟨b, c, d, rfl⟩ := List.length_eq_three.1 three
    exact ⟨b, c, d, rfl, by simpa using groups⟩
  · rintro ⟨b, c, d, rfl, groups⟩
    exact ⟨[b, c, d], rfl, rfl, by simpa using groups⟩

theorem matches_secondOctet : Matches (anyOf [seq [Regex.char '1', range '6' '9'],
      seq [Regex.char '2', digit], seq [Regex.char '3', oneOf "01"]]) cs ↔
    ∃ n, (16 ≤ n ∧ n ≤ 31) ∧ cs = numeral n := by
  have spells : Spells (anyOf [seq [Regex.char '1', range '6' '9'], seq [Regex.char '2', digit],
      seq [Regex.char '3', oneOf "01"]]) 2 fun n => 16 ≤ n ∧ n ≤ 31 :=
    spells_of_table rfl (by decide) (by decide)
  exact spells.matches_numeral fun n range => by omega

theorem matches_anything : Matches anything cs :=
  matches_star_chars.2 fun _ _ => rfl

theorem intercalate_four (a b c d : List Char) :
    ['.'].intercalate [a, b, c, d] = (a ++ '.' :: b) ++ following '.' [c, d] := by
  rw [intercalate_cons, List.append_assoc]
  rfl

theorem beginsPrivate_of_matches (matched : Matches Syntax.privateHost h) : BeginsPrivate h := by
  obtain ⟨p, q, rfl, start, -⟩ := matches_cat.1 matched
  have begins {a b c d : List Char} (network : PrivateNetwork a b) (groups : Group c ∧ Group d)
      (same : p = (a ++ '.' :: b) ++ following '.' [c, d]) : BeginsPrivate (p ++ q) := by
    rw [← intercalate_four] at same
    exact ⟨a, b, c, d, ⟨network, groups⟩, same ▸ List.prefix_append p q⟩
  rcases matches_alt.1 start with start | start
  · obtain ⟨_, _, rfl, first, rest⟩ := matches_cat.1 start
    obtain ⟨b, c, d, rfl, group, groups⟩ := matches_threeGroups.1 rest
    simp only [matches_alt, matches_text] at first
    rcases first with rfl | rfl
    · exact begins (.private8 group) groups rfl
    · exact begins (.loopback group) groups rfl
  rcases matches_alt.1 start with start | start
  · obtain ⟨_, _, rfl, first, rest⟩ := matches_cat.1 start
    obtain ⟨c, d, rfl, groups⟩ := matches_twoGroups.1 rest
    simp only [matches_alt, matches_text] at first
    rcases first with rfl | rfl
    · exact begins .linkLocal groups rfl
    · exact begins .private16 groups rfl
  · obtain ⟨_, _, rfl, first, rest⟩ := matches_cat.1 start
    obtain ⟨_, _, rfl, second, rest⟩ := matches_cat.1 rest
    obtain ⟨c, d, rfl, groups⟩ := matches_twoGroups.1 rest
    obtain ⟨n, range, rfl⟩ := matches_secondOctet.1 second
    rw [matches_text] at first
    subst first
    have same : "172.".toList ++ (numeral n ++ following '.' [c, d]) =
        numeral 172 ++ '.' :: numeral n ++ following '.' [c, d] := rfl
    exact begins (.private12 range) groups same

theorem matches_of_network (network : PrivateNetwork a b) (groups : Group c ∧ Group d)
    (rest : List Char) : Matches Syntax.privateHost (['.'].intercalate [a, b, c, d] ++ rest) := by
  refine .cat ?_ matches_anything
  have two := matches_twoGroups.2 ⟨c, d, rfl, groups⟩
  have three (group : Group b) := matches_threeGroups.2 ⟨b, c, d, rfl, group, groups⟩
  cases network with
  | private8 group =>
    rw [intercalate_cons]
    exact .altLeft (.cat (.altLeft (matches_text.2 rfl)) (three group))
  | loopback group =>
    rw [intercalate_cons]
    exact .altLeft (.cat (.altRight (matches_text.2 rfl)) (three group))
  | linkLocal =>
    rw [intercalate_four]
    exact .altRight (.altLeft (.cat (.altLeft (matches_text.2 rfl)) two))
  | @private12 n range =>
    have start : Matches (text "172.") (numeral 172 ++ ['.']) := matches_text.2 rfl
    have second := matches_secondOctet.2 ⟨n, range, rfl⟩
    have same : ['.'].intercalate [numeral 172, numeral n, c, d] =
        (numeral 172 ++ ['.']) ++ (numeral n ++ following '.' [c, d]) := by
      rw [intercalate_four]
      simp
    rw [same]
    exact .altRight (.altRight (.cat start (.cat second two)))
  | private16 =>
    rw [intercalate_four]
    exact .altRight (.altLeft (.cat (.altRight (matches_text.2 rfl)) two))

theorem matches_privateHost : Matches Syntax.privateHost h ↔ BeginsPrivate h := by
  constructor
  · exact beginsPrivate_of_matches
  · rintro ⟨a, b, c, d, ⟨network, groups⟩, rest, rfl⟩
    exact matches_of_network network groups rest

end FormRules.Proofs.Matching
