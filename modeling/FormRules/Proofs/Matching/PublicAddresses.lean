import FormRules.Proofs.Matching.Urls

/-!
# Public addresses

A url with an address as its host is accepted only if the address is public, with whatever leading
zeros its numbers are written, and no accepted host starts with an address that is not public.
-/

namespace FormRules.Proofs.Matching
open Regex hiding none
open Pattern Reading

variable {a b c d n : Nat} {cs h : List Char}

/-! ## Ranges of addresses -/

def address (a b c d : Nat) : Nat :=
  ((a * 256 + b) * 256 + c) * 256 + d

/-- A network by one of its addresses and how many leading bits all of them share. -/
def privateNetworks : List (Nat × Nat) :=
  [(address 10 0 0 0, 8), (address 127 0 0 0, 8), (address 169 254 0 0, 16),
    (address 192 168 0 0, 16), (address 172 16 0 0, 12)]

def InPrivateRange (a b c d : Nat) : Prop :=
  ∃ network ∈ privateNetworks,
    address a b c d / 2 ^ (32 - network.2) = network.1 / 2 ^ (32 - network.2)

instance : Decidable (InPrivateRange a b c d) :=
  inferInstanceAs (Decidable (∃ network ∈ privateNetworks, _))

def PrivateOctets (a b : Nat) : Prop :=
  a = 10 ∨ a = 127 ∨ a = 169 ∧ b = 254 ∨ a = 192 ∧ b = 168 ∨ a = 172 ∧ 16 ≤ b ∧ b ≤ 31

theorem address_div (second : b ≤ 255) (third : c ≤ 255) (last : d ≤ 255) :
    address a b c d / 2 ^ 24 = a ∧ address a b c d / 2 ^ 16 = a * 256 + b ∧
      address a b c d / 2 ^ 20 = a * 16 + b / 16 := by
  unfold address
  omega

theorem inPrivateRange_iff (second : b ≤ 255) (third : c ≤ 255) (last : d ≤ 255) :
    InPrivateRange a b c d ↔ PrivateOctets a b := by
  obtain ⟨wide, narrow, middle⟩ := @address_div a b c d second third last
  have bits : 32 - 8 = 24 ∧ 32 - 16 = 16 ∧ 32 - 12 = 20 := by decide
  simp only [InPrivateRange, privateNetworks, List.mem_cons, List.not_mem_nil, or_false,
    exists_eq_or_imp, exists_eq_left, bits, wide, narrow, middle, PrivateOctets]
  simp only [address]
  omega

/-! ## Numbers in an address -/

theorem length_padded (k n : Nat) : (padded k n).length = k := by
  induction k generalizing n with
  | zero => rfl
  | succ k ih => rw [padded, List.length_append, ih, List.length_singleton]

theorem group_numeral (small : n < 1000) : Group (numeral n) := by
  refine ⟨?_, digits_toDigits n⟩
  rcases numeral_of_lt_thousand small with ⟨-, same⟩ | ⟨-, same⟩ | ⟨-, same⟩ <;>
    rw [same, length_padded] <;> decide

theorem middleOctet_numeral (small : n ≤ 255) : MiddleOctet (numeral n) := by
  rcases numeral_of_lt_thousand (show n < 1000 by omega) with ⟨-, same⟩ | ⟨-, same⟩ | ⟨large, -⟩
  · exact .inl ⟨by rw [same, length_padded]; decide, digits_toDigits n⟩
  · exact .inl ⟨by rw [same, length_padded]; decide, digits_toDigits n⟩
  · exact .inr ⟨n, ⟨large, small⟩, rfl⟩

theorem MiddleOctet.group (middle : MiddleOctet cs) : Group cs := by
  rcases middle with ⟨length, digits⟩ | ⟨n, range, rfl⟩
  · exact ⟨⟨length.1, Nat.le_succ_of_le length.2⟩, digits⟩
  · exact group_numeral (by omega)

theorem MiddleOctet.value_le (middle : MiddleOctet cs) : digitsValue cs ≤ 255 := by
  rcases middle with ⟨length, digits⟩ | ⟨n, range, rfl⟩
  · have bound := digits.eq_padded.2
    have power : 10 ^ cs.length ≤ 10 ^ 2 := Nat.pow_le_pow_right (by decide) length.2
    omega
  · rw [digitsValue_numeral]
    exact range.2

theorem MiddleOctet.eq_numeral (middle : MiddleOctet cs) (large : 10 ≤ digitsValue cs) :
    cs = numeral (digitsValue cs) := by
  rcases middle with ⟨length, digits⟩ | ⟨n, range, rfl⟩
  · obtain ⟨same, bound⟩ := digits.eq_padded
    have two : cs.length = 2 := by
      rcases Nat.lt_or_ge cs.length 2 with short | long
      · have one : cs.length = 1 := by omega
        rw [one] at bound
        omega
      · omega
    rw [two] at same bound
    rw [numeral_eq_padded bound (.inr large)]
    exact same
  · rw [digitsValue_numeral]

theorem middleOctet_numeral_iff : MiddleOctet (numeral n) ↔ n ≤ 255 := by
  constructor
  · intro middle
    have bound := middle.value_le
    rwa [digitsValue_numeral] at bound
  · exact middleOctet_numeral

/-! ## Private addresses and private hosts -/

theorem privateNetwork_of_octets (octets : PrivateOctets a (digitsValue cs))
    (middle : MiddleOctet cs) : PrivateNetwork (numeral a) cs := by
  rcases octets with rfl | rfl | ⟨rfl, second⟩ | ⟨rfl, second⟩ | ⟨rfl, second⟩
  · exact .private8 middle.group
  · exact .loopback middle.group
  · rw [middle.eq_numeral (by omega), second]
    exact .linkLocal
  · rw [middle.eq_numeral (by omega), second]
    exact .private16
  · rw [middle.eq_numeral (by omega)]
    exact .private12 second

theorem octets_of_privateNetwork (network : PrivateNetwork (numeral a) (numeral b)) :
    PrivateOctets a b := by
  generalize first : numeral a = start at network
  generalize second : numeral b = next at network
  cases network with
  | private8 => exact .inl (numeral_inj.1 first)
  | loopback => exact .inr (.inl (numeral_inj.1 first))
  | linkLocal => exact .inr (.inr (.inl ⟨numeral_inj.1 first, numeral_inj.1 second⟩))
  | private12 range =>
    rw [← numeral_inj.1 second] at range
    exact .inr (.inr (.inr (.inr ⟨numeral_inj.1 first, range⟩)))
  | private16 => exact .inr (.inr (.inr (.inl ⟨numeral_inj.1 first, numeral_inj.1 second⟩)))

def quad (a b c d : Nat) : List Char :=
  ['.'].intercalate [numeral a, numeral b, numeral c, numeral d]

theorem prefix_of_separated {sep : Char} {p q s t : List Char} (first : sep ∉ p) (second : sep ∉ q)
    (starts : p ++ sep :: s <+: q ++ sep :: t) : p = q ∧ s <+: t := by
  obtain ⟨rest, same⟩ := starts
  rw [List.append_assoc, List.cons_append] at same
  have cut : Text.splitOnce? sep (q ++ sep :: t) = some (q, t) :=
    splitOnce?_eq_some_iff.2 ⟨rfl, second⟩
  rw [← same, splitOnce?_eq_some_iff.2 ⟨rfl, first⟩] at cut
  cases cut
  exact ⟨rfl, rest, rfl⟩

theorem octets_of_beginsPrivate (begins : BeginsPrivate (quad a b c d)) : PrivateOctets a b := by
  obtain ⟨w, x, y, z, ⟨network, -⟩, starts⟩ := begins
  have cut (p q : List Char) (rest : List (List Char)) : ['.'].intercalate (p :: q :: rest) =
      p ++ '.' :: ['.'].intercalate (q :: rest) := by
    rw [List.intercalate_cons_cons, List.append_assoc]
    rfl
  rw [quad, cut w, cut (numeral a)] at starts
  obtain ⟨first, starts⟩ := prefix_of_separated (point_not_mem_of_digits network.digits.1)
    (point_not_mem_of_digits (digits_toDigits a)) starts
  rw [cut x, cut (numeral b)] at starts
  obtain ⟨second, -⟩ := prefix_of_separated (point_not_mem_of_digits network.digits.2)
    (point_not_mem_of_digits (digits_toDigits b)) starts
  rw [first, second] at network
  exact octets_of_privateNetwork network

theorem beginsPrivate_of_starts (range : InPrivateRange a b c d) (second : b ≤ 255)
    (third : c ≤ 255) (last : d ≤ 255) (starts : quad a b c d <+: h) : BeginsPrivate h := by
  rw [inPrivateRange_iff second third last] at range
  have network : PrivateNetwork (numeral a) (numeral b) := by
    apply privateNetwork_of_octets _ (middleOctet_numeral second)
    rwa [digitsValue_numeral]
  have groups : Group (numeral c) ∧ Group (numeral d) :=
    ⟨group_numeral (by omega), group_numeral (by omega)⟩
  exact ⟨_, _, _, _, ⟨network, groups⟩, starts⟩

theorem beginsPrivate_quad_iff (second : b ≤ 255) (third : c ≤ 255) (last : d ≤ 255) :
    BeginsPrivate (quad a b c d) ↔ InPrivateRange a b c d := by
  constructor
  · intro begins
    exact (inPrivateRange_iff second third last).2 (octets_of_beginsPrivate begins)
  · intro range
    exact beginsPrivate_of_starts range second third last (List.prefix_refl _)

/-! ## Hosts of four numbers -/

theorem not_topLabel_of_digits (digits : Digits cs) : ¬TopLabel cs := by
  rintro ⟨long, letters⟩
  obtain ⟨c, mem⟩ := List.exists_mem_of_length_pos (show 0 < cs.length by omega)
  exact (letters c mem).not_isDigit (digits c mem)

/-- Four parts of digits are an address, for the last label of a name has letters. -/
theorem Host.address_of_digits {p q r s : List Char} (host : Host h)
    (parts : Text.splitOn '.' h = [p, q, r, s]) (digits : Digits s) :
    ∃ i k, (p = numeral i ∧ 1 ≤ i ∧ i ≤ 223) ∧ MiddleOctet q ∧ MiddleOctet r ∧
      s = numeral k ∧ 1 ≤ k ∧ k ≤ 254 := by
  rcases host with ⟨same, first, second, third, last⟩ | ⟨same, -, -, top⟩
  · rw [parts] at same
    cases same
    exact ⟨_, _, ⟨rfl, first⟩, second, third, rfl, last⟩
  · rw [parts] at same
    have ends := congrArg List.getLast? same
    rw [List.getLast?_concat] at ends
    cases ends
    exact absurd top (not_topLabel_of_digits digits)

theorem splitOn_digits {parts : List (List Char)} (digits : ∀ p ∈ parts, Digits p)
    (some : parts ≠ []) : Text.splitOn '.' (['.'].intercalate parts) = parts :=
  splitOn_intercalate (fun p mem => point_not_mem_of_digits (digits p mem)) some

theorem digits_of_mem_quad (a b c d : Nat) :
    ∀ p ∈ [numeral a, numeral b, numeral c, numeral d], Digits p := by
  simp only [List.forall_mem_cons, List.not_mem_nil, false_imp_iff, implies_true, and_true]
  exact ⟨digits_toDigits a, digits_toDigits b, digits_toDigits c, digits_toDigits d⟩

theorem splitOn_quad : Text.splitOn '.' (quad a b c d) =
    [numeral a, numeral b, numeral c, numeral d] :=
  splitOn_digits (digits_of_mem_quad a b c d) (List.cons_ne_nil _ _)

theorem quad_whole : ':' ∉ quad a b c d ∧ '/' ∉ quad a b c d := by
  have chars {e : Char} (mem : e ∈ quad a b c d) : e = '.' ∨ e.isDigit = true := by
    rcases mem_intercalate mem with point | ⟨p, part, inside⟩
    · exact .inl point
    · exact .inr (digits_of_mem_quad a b c d p part e inside)
  exact ⟨fun mem => absurd (chars mem) (by decide), fun mem => absurd (chars mem) (by decide)⟩

theorem host_quad_iff : Host (quad a b c d) ↔
    (1 ≤ a ∧ a ≤ 223) ∧ b ≤ 255 ∧ c ≤ 255 ∧ 1 ≤ d ∧ d ≤ 254 := by
  constructor
  · intro host
    obtain ⟨i, k, ⟨first, bounds⟩, second, third, last, bounds'⟩ :=
      host.address_of_digits splitOn_quad (digits_toDigits d)
    rw [numeral_inj] at first last
    rw [middleOctet_numeral_iff] at second third
    rw [first, last]
    exact ⟨bounds, second, third, bounds'⟩
  · rintro ⟨first, second, third, last⟩
    exact .address splitOn_quad first (middleOctet_numeral second) (middleOctet_numeral third) last

theorem not_inPrivateRange_of_host {p q r s : List Char}
    (digits : ∀ part ∈ [p, q, r, s], part ≠ [] ∧ Digits part)
    (host : Host (['.'].intercalate [p, q, r, s]))
    (notPrivate : ¬BeginsPrivate (['.'].intercalate [p, q, r, s])) :
    ¬InPrivateRange (digitsValue p) (digitsValue q) (digitsValue r) (digitsValue s) := by
  have parts := splitOn_digits (fun part mem => (digits part mem).2) (List.cons_ne_nil _ _)
  obtain ⟨i, k, ⟨rfl, -⟩, second, third, rfl, bounds⟩ :=
    host.address_of_digits parts (digits s (by simp)).2
  have last : digitsValue (numeral k) ≤ 255 := by
    rw [digitsValue_numeral]
    omega
  rw [inPrivateRange_iff second.value_le third.value_le last, digitsValue_numeral]
  intro octets
  have network := privateNetwork_of_octets octets second
  exact notPrivate ⟨_, _, _, _, ⟨network, third.group, group_numeral (by omega)⟩,
    List.prefix_refl _⟩

theorem public_addresses_only :
    (∀ (u : UrlParts) (a b c d : Nat), u.Framed → u.host = quad a b c d →
      (Pattern.url.accepts (String.ofList u.text) = true ↔
        ((1 ≤ a ∧ a ≤ 223) ∧ b ≤ 255 ∧ c ≤ 255 ∧ 1 ≤ d ∧ d ≤ 254) ∧ ¬InPrivateRange a b c d)) ∧
    ∀ (v : String) (u : UrlParts), Pattern.url.accepts v = true → u.text = v.toList → u.Captured →
      (∀ p q r s : List Char, (∀ part ∈ [p, q, r, s], part ≠ [] ∧ Digits part) →
        u.host = ['.'].intercalate [p, q, r, s] →
        ¬InPrivateRange (digitsValue p) (digitsValue q) (digitsValue r) (digitsValue s)) ∧
      ∀ a b c d : Nat, a ≤ 255 → b ≤ 255 → c ≤ 255 → d ≤ 255 → InPrivateRange a b c d →
        ¬quad a b c d <+: u.host := by
  constructor
  · intro u a b c d framed host
    have whole : ':' ∉ u.host ∧ '/' ∉ u.host := host ▸ quad_whole
    rw [Pattern.accepts, String.toList_ofList, accepts_framed_iff framed whole, host, host_quad_iff]
    apply and_congr_right
    rintro ⟨-, second, third, last⟩
    exact not_congr (beginsPrivate_quad_iff second third (Nat.le_succ_of_le last.2))
  · intro v u accepted text captured
    have wellFormed := UrlParts.captured_iff.1 captured
    rw [Pattern.accepts, ← text, accepts_framed_iff wellFormed.toFramed wellFormed.whole]
      at accepted
    obtain ⟨host, notPrivate⟩ := accepted
    constructor
    · intro p q r s digits same
      rw [same] at host notPrivate
      exact not_inPrivateRange_of_host digits host notPrivate
    · intro a b c d _ second third last range starts
      exact notPrivate (beginsPrivate_of_starts range second third last starts)

theorem padded_address_is_public :
    let quoted : UrlParts := ⟨"ftp://".toList, quad 172 32 0 1, [], []⟩
    let zeros : UrlParts := ⟨"http://".toList, "8.08.00.1".toList, ":80".toList, "/x".toList⟩
    Pattern.url.accepts (String.ofList quoted.text) = true ∧
      Pattern.url.accepts "http://8.08.00.1:80/x" = true ∧ ¬InPrivateRange 8 8 0 1 ∧
      ¬quad 10 0 0 1 <+: zeros.host := by
  intro quoted zeros
  have framed : quoted.Framed := ⟨.inr ⟨"ftp".toList, rfl, by decide⟩, .inl rfl, .inl rfl⟩
  have captured : zeros.Captured :=
    ⟨accepts_iff.1 (by decide), accepts_iff.1 (by decide),
      accepts_iff.1 (by decide), accepts_iff.1 (by decide)⟩
  have accepted : Pattern.url.accepts "http://8.08.00.1:80/x" = true := by decide
  obtain ⟨anyDigits, anyPrefix⟩ := public_addresses_only.2 _ zeros accepted rfl captured
  refine ⟨?_, accepted, ?_, ?_⟩
  · exact (public_addresses_only.1 quoted 172 32 0 1 framed rfl).2 (by decide)
  · exact anyDigits ['8'] ['0', '8'] ['0', '0'] ['1'] (by simp [Digits]) rfl
  · exact anyPrefix 10 0 0 1 (by decide) (by decide) (by decide) (by decide) (by decide)

end FormRules.Proofs.Matching
