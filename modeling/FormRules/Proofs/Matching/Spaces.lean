import FormRules.Proofs.Matching.Urls

/-!
# White space in urls

Only the path of a url is kept free of white space by name. The scheme and the port have no room for
it either, but a host may be written with any characters from U+00A1 on, and some of them are white
space.
-/

namespace FormRules.Proofs.Matching
open Regex hiding none
open Pattern Reading

variable {c : Char} {cs ds : List Char} {u : UrlParts}

theorem Scheme.not_isSpace (scheme : Scheme cs) (mem : c ∈ cs) : Text.isSpace c = false := by
  obtain ⟨name, rfl, known⟩ := scheme
  rw [Bool.eq_false_iff]
  rcases List.mem_append.1 mem with inName | inMark
  · have solid : ∀ word ∈ ["http".toList, "https".toList, "ftp".toList],
        word.any Text.isSpace = false := by decide
    have folded := List.any_eq_false.1 (solid _ known) (fold c) (List.mem_map_of_mem inName)
    intro space
    apply folded
    rwa [uncased_of_isSpace space (fold c) (fold_fold c)]
  · have solid : "://".toList.any Text.isSpace = false := by decide
    exact List.any_eq_false.1 solid c inMark

theorem Port.not_isSpace (port : Port cs) (mem : c ∈ cs) : Text.isSpace c = false := by
  obtain ⟨digits, rfl, -, all⟩ := port
  rcases List.mem_cons.1 mem with rfl | mem
  · rfl
  · exact not_isSpace_of_isDigit (all c mem)

theorem Path.not_isSpace (path : Path cs) (mem : c ∈ cs) : Text.isSpace c = false := by
  obtain ⟨rest, rfl, solid⟩ := path
  rcases List.mem_cons.1 mem with rfl | mem
  · rfl
  · exact solid c mem

theorem UrlParts.Framed.not_isSpace (framed : u.Framed)
    (mem : c ∈ u.scheme ++ (u.port ++ u.path)) : Text.isSpace c = false := by
  obtain ⟨scheme, port, path⟩ := framed
  simp only [List.mem_append] at mem
  rcases mem with inScheme | inPort | inPath
  · exact (scheme.resolve_left (List.ne_nil_of_mem inScheme)).not_isSpace inScheme
  · exact (port.resolve_left (List.ne_nil_of_mem inPort)).not_isSpace inPort
  · exact (path.resolve_left (List.ne_nil_of_mem inPath)).not_isSpace inPath

/-- White space that the range of letters for international names takes in. -/
def IsWideSpace (c : Char) : Prop :=
  Text.isSpace c = true ∧ '\u00a1' ≤ c

instance : DecidablePred IsWideSpace := fun _ =>
  inferInstanceAs (Decidable (_ ∧ _))

theorem Host.isWideSpace (host : Host cs) (mem : c ∈ cs) (space : Text.isSpace c = true) :
    IsWideSpace c := by
  refine ⟨space, ?_⟩
  rcases host.chars mem with (letter | digit) | rfl | rfl
  · rcases letter with ascii | wide
    · rw [isSpace_iff] at space
      rw [isAlpha_iff] at ascii
      omega
    · exact wide.1
  · rw [not_isSpace_of_isDigit digit] at space
    contradiction
  · contradiction
  · contradiction

theorem IsWideSpace.isNameLetter (wide : IsWideSpace c) : IsNameLetter c := by
  have space := isSpace_iff.1 wide.1
  have small : c.toNat ≤ 0xffff := by omega
  exact .inr ⟨wide.2, small⟩

theorem label_of_letters (filled : cs ≠ []) (letters : ∀ c ∈ cs, IsNameLetter c) : Label cs where
  filled := filled
  chars c mem := .inl (.inl (letters c mem))
  first dash := not_isNameChar_dash (.inl (letters '-' (List.mem_of_mem_head? dash)))
  last dash := not_isNameChar_dash (.inl (letters '-' (List.mem_of_getLast? dash)))

theorem host_of_letters (filled : cs ≠ []) (long : 2 ≤ ds.length)
    (letters : ∀ c ∈ cs ++ ds, IsNameLetter c) : Host (cs ++ '.' :: ds) := by
  rw [List.forall_mem_append] at letters
  have label := label_of_letters filled letters.1
  have top : TopLabel ds := ⟨long, letters.2⟩
  have parts : Text.splitOn '.' (cs ++ '.' :: ds) = [cs] ++ [ds] := by
    refine splitOn_eq_iff.2 ⟨List.cons_ne_nil _ _, by simp, ?_⟩
    simpa using ⟨label.point_not_mem, top.point_not_mem⟩
  exact .name parts (List.cons_ne_nil _ _) (List.forall_mem_singleton.2 label) top

theorem accepts_framed_letters (framed : u.Framed) (host : u.host = cs ++ '.' :: ds)
    (filled : cs ≠ []) (long : 2 ≤ ds.length) (letters : ∀ c ∈ cs ++ ds, IsNameLetter c) :
    Pattern.url.acceptsChars u.text = true := by
  have named : Host u.host := host ▸ host_of_letters filled long letters
  rw [accepts_framed_iff framed named.whole]
  refine ⟨named, ?_⟩
  obtain ⟨c, cs, rfl⟩ := List.exists_cons_of_ne_nil filled
  rw [host]
  intro begins
  exact (letters c List.mem_cons_self).not_isDigit begins.isDigit

theorem UrlParts.WellFormed.solid_iff (wellFormed : u.WellFormed) :
    (∀ c ∈ u.text, Text.isSpace c = false) ↔ ∀ c ∈ u.host, ¬IsWideSpace c := by
  constructor
  · intro solid c mem wide
    have inText : c ∈ u.text := by simp [UrlParts.text, mem]
    rw [IsWideSpace, solid c inText] at wide
    cases wide.1
  · intro narrow c mem
    by_cases inHost : c ∈ u.host
    · rw [Bool.eq_false_iff]
      intro space
      exact narrow c inHost (wellFormed.host.isWideSpace inHost space)
    · apply wellFormed.toFramed.not_isSpace
      simp only [UrlParts.text, List.mem_append] at mem ⊢
      tauto

/-- An accepted url is free of white space exactly if its host has none from the range of letters for
names, for there is none in its other parts. But in its host white space from that range may stand
wherever letters may. -/
theorem white_space_only_in_names {v : String} (accepted : Pattern.url.accepts v = true) :
    ((∀ c ∈ v.toList, Text.isSpace c = false) ↔ ∀ c ∈ Url.host v.toList, ¬IsWideSpace c) ∧
    ∃ u : UrlParts, u.text = v.toList ∧ u.WellFormed ∧
      (∀ c ∈ u.scheme ++ (u.port ++ u.path), Text.isSpace c = false) ∧
      ∀ cs ds : List Char, cs ≠ [] → 2 ≤ ds.length →
        (∀ c ∈ cs ++ ds, c.isAlpha = true ∨ IsWideSpace c) →
        Pattern.url.accepts (String.ofList { u with host := cs ++ '.' :: ds }.text) = true := by
  obtain ⟨u, text, wellFormed, -⟩ := accepts_url_iff.1 accepted
  refine ⟨?_, u, text, wellFormed, ?_, ?_⟩
  · rw [← text, wellFormed.host_text wellFormed.whole]
    exact wellFormed.solid_iff
  · intro c mem
    exact wellFormed.toFramed.not_isSpace mem
  · intro cs ds filled long letters
    have framed : UrlParts.Framed { u with host := cs ++ '.' :: ds } :=
      ⟨wellFormed.scheme, wellFormed.port, wellFormed.path⟩
    rw [Pattern.accepts, String.toList_ofList]
    apply accepts_framed_letters framed rfl filled long
    intro c mem
    rcases letters c mem with letter | wide
    · exact .inl letter
    · exact wide.isNameLetter

theorem spaces_of_exa_mple :
    (∃ c ∈ Url.host "http://exa\u3000mple.com:80/a".toList, IsWideSpace c) ∧
      ∃ u : UrlParts, u.text = "http://exa\u3000mple.com:80/a".toList ∧
        Pattern.url.accepts (String.ofList { u with host := "\u3000.\u2003\u2003".toList }.text) =
          true := by
  have accepted : Pattern.url.accepts "http://exa\u3000mple.com:80/a" = true := by decide
  obtain ⟨narrow, u, text, -, -, spaces⟩ := white_space_only_in_names accepted
  refine ⟨?_, u, text, ?_⟩
  · by_contra absent
    have solid := narrow.2 fun c mem wide => absent ⟨c, mem, wide⟩
    cases solid '\u3000' (by decide)
  · exact spaces ['\u3000'] ['\u2003', '\u2003'] (by simp) (by simp)
      (by simp [IsWideSpace, Text.isSpace])

theorem accepted_with_white_space :
    ¬∀ v : String, Pattern.url.accepts v = true → ∀ c ∈ v.toList, Text.isSpace c = false := by
  intro solid
  have accepted : Pattern.url.accepts "http://exa\u3000mple.com" = true := by decide
  exact absurd (solid _ accepted '\u3000' (by decide)) (by decide)

end FormRules.Proofs.Matching
