import FormRules.Proofs.Matching.Hosts
import FormRules.Proofs.Matching.PrivateHosts

/-!
# Urls

A url is a host, perhaps with a scheme in front of it and with a port and a path behind. No host has
a colon or a slash, so the host of a url is found in one way only, and this is the host that is
checked against the private networks.
-/

namespace FormRules.Proofs.Matching
open Regex hiding none
open Pattern Reading

variable {cs h rest : List Char} {c : Char}

/-! ## Parts -/

structure UrlParts where
  scheme : List Char
  host : List Char
  port : List Char
  path : List Char

def Scheme (cs : List Char) : Prop :=
  ∃ name, cs = name ++ "://".toList ∧
    name.map fold ∈ ["http".toList, "https".toList, "ftp".toList]

def Port (cs : List Char) : Prop :=
  ∃ ds, cs = ':' :: ds ∧ (2 ≤ ds.length ∧ ds.length ≤ 5) ∧ Digits ds

def Path (cs : List Char) : Prop :=
  ∃ rest, cs = '/' :: rest ∧ ∀ c ∈ rest, Text.isSpace c = false

namespace UrlParts

variable {u : UrlParts}

def text (u : UrlParts) : List Char :=
  u.scheme ++ (u.host ++ (u.port ++ u.path))

structure Captured (u : UrlParts) : Prop where
  scheme : Matches (opt Syntax.scheme).caseless u.scheme
  host : Matches (Regex.alt Syntax.publicQuad Syntax.hostName).caseless u.host
  port : Matches (opt (seq [Regex.char ':', between 2 5 digit])).caseless u.port
  path : Matches (opt (seq [Regex.char '/', .star (.chars Syntax.nonSpaces)])).caseless u.path

/-- What stands around the host; each part may be left out. -/
structure Framed (u : UrlParts) : Prop where
  scheme : u.scheme = [] ∨ Scheme u.scheme
  port : u.port = [] ∨ Port u.port
  path : u.path = [] ∨ Path u.path

structure WellFormed (u : UrlParts) : Prop extends Framed u where
  host : Host u.host
  whole : ':' ∉ u.host ∧ '/' ∉ u.host

end UrlParts

/-! ## The expression -/

theorem matches_url : Matches Syntax.url cs ↔ ∃ u : UrlParts, u.text = cs ∧ u.Captured := by
  have pieces : Matches Syntax.url cs ↔ Matches (.cat (opt Syntax.scheme).caseless
      (.cat (Regex.alt Syntax.publicQuad Syntax.hostName).caseless
        (.cat (opt (seq [Regex.char ':', between 2 5 digit])).caseless
          (opt (seq [Regex.char '/', .star (.chars Syntax.nonSpaces)])).caseless))) cs := Iff.rfl
  rw [pieces]
  constructor
  · intro matched
    obtain ⟨scheme, _, rfl, first, matched⟩ := matches_cat.1 matched
    obtain ⟨host, _, rfl, second, matched⟩ := matches_cat.1 matched
    obtain ⟨port, path, rfl, third, last⟩ := matches_cat.1 matched
    exact ⟨⟨scheme, host, port, path⟩, rfl, first, second, third, last⟩
  · rintro ⟨u, rfl, first, second, third, last⟩
    exact .cat first (.cat second (.cat third last))

theorem matches_schemeName : Matches (.alt (.cat (Regex.text "http").caseless
      (opt (Regex.text "s")).caseless) (Regex.text "ftp").caseless) cs ↔
    cs.map fold ∈ ["http".toList, "https".toList, "ftp".toList] := by
  have folded : "http".toList.map fold = "http".toList ∧ "s".toList.map fold = "s".toList ∧
      "ftp".toList.map fold = "ftp".toList := by decide
  have https : "https".toList = "http".toList ++ "s".toList := rfl
  simp only [matches_alt, matches_cat, matches_optCaseless, matches_text_caseless, folded,
    List.mem_cons, List.not_mem_nil, or_false]
  constructor
  · rintro (⟨a, b, rfl, http, rfl | secure⟩ | ftp)
    · exact .inl (by rwa [List.append_nil])
    · exact .inr (.inl (by rw [List.map_append, http, secure, https]))
    · exact .inr (.inr ftp)
  · rintro (http | secure | ftp)
    · exact .inl ⟨cs, [], (List.append_nil cs).symm, http, .inl rfl⟩
    · rw [https] at secure
      obtain ⟨a, b, rfl, http, last⟩ := List.map_eq_append_iff.1 secure
      exact .inl ⟨a, b, rfl, http, .inr last⟩
    · exact .inr ftp

theorem matches_scheme : Matches Syntax.scheme.caseless cs ↔ Scheme cs := by
  have separator (b : List Char) :
      Matches (Regex.text "://").caseless b ↔ b = "://".toList := by
    rw [matches_caseless_iff (by decide), matches_text]
  have cut : Matches Syntax.scheme.caseless cs ↔
      ∃ a b, cs = a ++ b ∧ _ ∧ Matches (Regex.text "://").caseless b := matches_cat
  rw [cut]
  simp only [separator, Scheme]
  constructor
  · rintro ⟨name, _, rfl, matched, rfl⟩
    exact ⟨name, rfl, matches_schemeName.1 matched⟩
  · rintro ⟨name, rfl, known⟩
    exact ⟨name, _, rfl, matches_schemeName.2 known, rfl⟩

theorem matches_port : Matches (seq [Regex.char ':', between 2 5 digit]).caseless cs ↔ Port cs := by
  rw [matches_caseless_iff (by decide), matches_colonDigits (by decide), Port]

theorem inRanges_nonSpaces : Syntax.nonSpaces.inRanges c = Text.isSpace c := by
  have order (a b : Char) : a ≤ b ↔ a.toNat ≤ b.toNat := Iff.rfl
  rw [Bool.eq_iff_iff, isSpace_iff]
  simp only [CharSet.inRanges, Syntax.nonSpaces, List.any_cons, List.any_nil, Bool.or_eq_true,
    Bool.and_eq_true, decide_eq_true_iff, order, Char.reduceToNat, Bool.false_eq_true, or_false]
  omega

theorem uncased_of_isSpace (space : Text.isSpace c = true) : Uncased c := by
  rw [isSpace_iff] at space
  rw [uncased_iff]
  omega

theorem contains_nonSpaces :
    (anyCase Syntax.nonSpaces).contains c = true ↔ Text.isSpace c = false := by
  have uncased (d : Char) (inside : Syntax.nonSpaces.inRanges d = true) : Uncased d :=
    uncased_of_isSpace (inRanges_nonSpaces ▸ inside)
  rw [contains_anyCase_of_uncased uncased rfl]
  show (Syntax.nonSpaces.inRanges c != true) = true ↔ _
  rw [inRanges_nonSpaces, Bool.bne_true, Bool.not_eq_true']

theorem matches_path :
    Matches (seq [Regex.char '/', .star (.chars Syntax.nonSpaces)]).caseless cs ↔ Path cs := by
  have slash (cs : List Char) : Matches (Regex.char '/').caseless cs ↔ cs = ['/'] := by
    rw [matches_caseless_iff (by decide), matches_char]
  have others (cs : List Char) : Matches (Regex.star (.chars Syntax.nonSpaces)).caseless cs ↔
      ∀ c ∈ cs, Text.isSpace c = false := by
    rw [caseless_star, caseless_chars, matches_star_chars]
    simp only [contains_nonSpaces]
  simp only [seq, caseless_cat, matches_cat, slash, others]
  constructor
  · rintro ⟨_, rest, rfl, rfl, solid⟩
    exact ⟨rest, rfl, solid⟩
  · rintro ⟨rest, rfl, solid⟩
    exact ⟨['/'], rest, rfl, rfl, solid⟩

theorem UrlParts.captured_iff {u : UrlParts} : u.Captured ↔ u.WellFormed := by
  constructor
  · rintro ⟨scheme, host, port, path⟩
    rw [matches_optCaseless, matches_scheme] at scheme
    rw [matches_host] at host
    rw [matches_optCaseless, matches_port] at port
    rw [matches_optCaseless, matches_path] at path
    exact ⟨⟨scheme, port, path⟩, host, host.whole⟩
  · rintro ⟨⟨scheme, port, path⟩, host, -⟩
    rw [← matches_scheme, ← matches_optCaseless] at scheme
    rw [← matches_host] at host
    rw [← matches_port, ← matches_optCaseless] at port
    rw [← matches_path, ← matches_optCaseless] at path
    exact ⟨scheme, host, port, path⟩

/-! ## Finding the host -/

theorem endsHost_of_mem (whole : ':' ∉ h ∧ '/' ∉ h) (mem : c ∈ h) : Url.endsHost c = false := by
  have colon : c ≠ ':' := fun same => whole.1 (same ▸ mem)
  have slash : c ≠ '/' := fun same => whole.2 (same ▸ mem)
  simp [Url.endsHost, colon, slash]

theorem takeWhile_host (whole : ':' ∉ h ∧ '/' ∉ h)
    (ends : ∀ c ∈ rest.head?, Url.endsHost c = true) :
    (h ++ rest).takeWhile (fun c => !Url.endsHost c) = h := by
  rw [List.takeWhile_append_of_pos fun c mem => by rw [endsHost_of_mem whole mem, Bool.not_false]]
  cases rest with
  | nil => simp
  | cons c rest => simp [ends c rfl]

theorem dropWhile_host (whole : ':' ∉ h ∧ '/' ∉ h)
    (ends : ∀ c ∈ rest.head?, Url.endsHost c = true) :
    (h ++ rest).dropWhile (fun c => !Url.endsHost c) = rest := by
  rw [List.dropWhile_append_of_pos fun c mem => by rw [endsHost_of_mem whole mem, Bool.not_false]]
  cases rest with
  | nil => rfl
  | cons c rest => simp [ends c rfl]

theorem Scheme.exists_name (scheme : Scheme cs) :
    ∃ name, cs = name ++ "://".toList ∧ ':' ∉ name ∧ '/' ∉ name := by
  obtain ⟨name, rfl, known⟩ := scheme
  have absent (d : Char) (other : ∀ known ∈ ["http".toList, "https".toList, "ftp".toList],
      fold d ∉ known) : d ∉ name := fun mem => other _ known (List.mem_map_of_mem mem)
  exact ⟨name, rfl, absent ':' (by decide), absent '/' (by decide)⟩

namespace UrlParts

variable {u : UrlParts}

theorem Framed.ends (framed : u.Framed) :
    ∀ c ∈ (u.port ++ u.path).head?, Url.endsHost c = true := by
  rcases framed.port with none | ⟨ds, port, -⟩
  · rcases framed.path with none' | ⟨more, path, -⟩
    · simp [none, none']
    · simp [none, path, Url.endsHost]
  · simp [port, Url.endsHost]

theorem Framed.no_scheme (framed : u.Framed) :
    Text.dropPrefix? "://".toList (u.port ++ u.path) = none := by
  rcases framed.port with none | ⟨ds, port, length, digits⟩
  · rcases framed.path with none' | ⟨more, path, -⟩
    · rw [none, none']
      rfl
    · rw [none, path]
      rfl
  · cases ds with
    | nil => cases length.1
    | cons d ds =>
      have other : '/' ≠ d := (ne_of_isDigit (digits d List.mem_cons_self) rfl).symm
      rw [port]
      simp [Text.dropPrefix?, other]

theorem Framed.host_text (framed : u.Framed) (whole : ':' ∉ u.host ∧ '/' ∉ u.host) :
    Url.host u.text = u.host := by
  have found := takeWhile_host whole framed.ends
  rcases framed.scheme with none | scheme
  · have behind := dropWhile_host whole framed.ends
    rw [text, none, List.nil_append, Url.host, behind, framed.no_scheme]
    exact found
  · obtain ⟨name, same, noColon, noSlash⟩ := scheme.exists_name
    have behind : u.text.dropWhile (fun c => !Url.endsHost c) =
        "://".toList ++ (u.host ++ (u.port ++ u.path)) := by
      rw [text, same, List.append_assoc]
      exact dropWhile_host ⟨noColon, noSlash⟩ (by simp [Url.endsHost])
    rw [Url.host, behind]
    exact found

end UrlParts

/-! ## Which urls are accepted -/

variable {u : UrlParts}

theorem accepts_iff_matches : Pattern.url.acceptsChars cs = true ↔
    Matches Syntax.url cs ∧ ¬BeginsPrivate (Url.host cs) := by
  rw [← matches_privateHost, ← accepts_iff, ← accepts_iff, Bool.not_eq_true, ← Bool.not_eq_true',
    ← Bool.and_eq_true]
  rfl

theorem accepts_url_iff : Pattern.url.acceptsChars cs = true ↔
    ∃ u : UrlParts, u.text = cs ∧ u.WellFormed ∧ ¬BeginsPrivate u.host := by
  rw [accepts_iff_matches, matches_url]
  constructor
  · rintro ⟨⟨u, rfl, captured⟩, notPrivate⟩
    have wellFormed := UrlParts.captured_iff.1 captured
    rw [wellFormed.host_text wellFormed.whole] at notPrivate
    exact ⟨u, rfl, wellFormed, notPrivate⟩
  · rintro ⟨u, rfl, wellFormed, notPrivate⟩
    rw [wellFormed.host_text wellFormed.whole]
    exact ⟨⟨u, rfl, UrlParts.captured_iff.2 wellFormed⟩, notPrivate⟩

theorem accepts_framed_iff (framed : u.Framed) (whole : ':' ∉ u.host ∧ '/' ∉ u.host) :
    Pattern.url.acceptsChars u.text = true ↔ Host u.host ∧ ¬BeginsPrivate u.host := by
  rw [accepts_url_iff]
  constructor
  · rintro ⟨d, same, wellFormed, notPrivate⟩
    have host : d.host = u.host := by
      rw [← wellFormed.host_text wellFormed.whole, same, framed.host_text whole]
    rw [← host]
    exact ⟨wellFormed.host, notPrivate⟩
  · rintro ⟨host, notPrivate⟩
    exact ⟨u, rfl, ⟨framed, host, whole⟩, notPrivate⟩

theorem url_has_one_host (v : String) :
    (Pattern.url.accepts v = true ↔
        ∃ u : UrlParts, u.text = v.toList ∧ u.WellFormed ∧ ¬BeginsPrivate u.host) ∧
      ∀ u : UrlParts, u.text = v.toList →
        (u.Captured ↔ u.WellFormed) ∧ (u.WellFormed → u.host = Url.host v.toList) := by
  refine ⟨accepts_url_iff, ?_⟩
  intro u text
  refine ⟨UrlParts.captured_iff, ?_⟩
  intro wellFormed
  rw [← text, wellFormed.host_text wellFormed.whole]

theorem host_of_lookalike_address :
    let u : UrlParts :=
      ⟨"HTTPS://".toList, "172.32.0.1.b-c.COM".toList, ":8080".toList, "/a:b".toList⟩
    Pattern.url.accepts "HTTPS://172.32.0.1.b-c.COM:8080/a:b" = true ∧
      u.host = Url.host "HTTPS://172.32.0.1.b-c.COM:8080/a:b".toList := by
  intro u
  obtain ⟨accepted, parts⟩ := url_has_one_host "HTTPS://172.32.0.1.b-c.COM:8080/a:b"
  have captured : u.Captured :=
    ⟨accepts_iff.1 (by decide), accepts_iff.1 (by decide),
      accepts_iff.1 (by decide), accepts_iff.1 (by decide)⟩
  have wellFormed : u.WellFormed := (parts u rfl).1.1 captured
  have notPrivate : ¬BeginsPrivate u.host := by
    rw [← matches_privateHost, ← accepts_iff]
    decide
  exact ⟨accepted.2 ⟨u, rfl, wellFormed, notPrivate⟩, (parts u rfl).2 wellFormed⟩

end FormRules.Proofs.Matching
