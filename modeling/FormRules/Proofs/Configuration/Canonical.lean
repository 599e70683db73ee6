import FormRules.Proofs.Configuration.Errors
import FormRules.Proofs.Reading.WellFormed

/-!
# Canonical specifications

A field can be written down again: its rules as they are printed, with bars between them. The
specification made in this way describes the field it was made from.
-/

namespace FormRules.Proofs.Configuration
open Reading

variable {isKnown : String → Bool} {spec : FieldSpec} {f : Field} {rules : List Rule} {r : Rule}

def canonicalSpec (f : Field) : FieldSpec where
  id := f.id
  label := some f.label
  kind := f.kind
  group := f.declaredGroup
  rules := "|".intercalate (f.rules.map Rule.text)

/-- The rules are read from the tokens of some rule text. -/
def Written (rules : List Rule) : Prop :=
  ∀ r ∈ rules, ∃ token, '|' ∉ token ∧ Rule.ofChars token = .ok r

theorem bar_not_mem_of_mem_tokens {declaration : String} {token : List Char}
    (mem : token ∈ Declaration.tokens declaration) : '|' ∉ token := by
  intro bar
  exact (mem_of_mem_splitOn (List.mem_filter.1 mem).1 bar).2 rfl

theorem written_fieldOf (spec : FieldSpec) : Written (fieldOf spec).rules := by
  intro r mem
  obtain ⟨token, tokenMem, read⟩ := mem_readTokens_ok.1 mem
  exact ⟨token, bar_not_mem_of_mem_tokens tokenMem, read⟩

theorem Written.bar_not_mem (written : Written rules) (mem : r ∈ rules) :
    '|' ∉ r.text.toList := by
  obtain ⟨token, absent, read⟩ := written r mem
  apply bar_not_mem_text (ofChars_eq_ok_iff.1 read)
  exact fun bar => absent (mem_of_mem_trim bar)

theorem Written.ofChars_text (written : Written rules) (mem : r ∈ rules) :
    Rule.ofChars r.text.toList = .ok r := by
  obtain ⟨token, -, read⟩ := written r mem
  exact Reading.ofChars_text (wellFormed_of_ofChars read)

theorem toList_intercalate_text (rules : List Rule) :
    ("|".intercalate (rules.map Rule.text)).toList =
      ['|'].intercalate (rules.map fun r => r.text.toList) := by
  rw [String.toList_intercalate, List.map_map]
  rfl

theorem Written.splitOn_eq (written : Written rules) (some : rules ≠ []) :
    Text.splitOn '|' ("|".intercalate (rules.map Rule.text)).toList =
      rules.map fun r => r.text.toList := by
  rw [toList_intercalate_text]
  apply splitOn_intercalate
  · intro part mem
    obtain ⟨r, rMem, rfl⟩ := List.mem_map.1 mem
    exact written.bar_not_mem rMem
  · simpa using some

theorem Written.tokens_eq (written : Written rules) :
    Declaration.tokens ("|".intercalate (rules.map Rule.text)) =
      rules.map fun r => r.text.toList := by
  by_cases some : rules = []
  · rw [some]
    rfl
  · rw [Declaration.tokens, written.splitOn_eq some, List.filter_eq_self]
    intro part mem
    obtain ⟨r, -, rfl⟩ := List.mem_map.1 mem
    rw [isBlank_text]
    rfl

theorem Written.readTokens_eq (written : Written rules) (field : String) :
    Declaration.readTokens field ("|".intercalate (rules.map Rule.text)) = rules.map .ok := by
  rw [Declaration.readTokens, written.tokens_eq, List.map_map]
  apply List.map_congr_left
  intro r mem
  exact readToken_eq_ok_iff.2 (written.ofChars_text mem)

theorem labelOf_labelOf (label : Option String) :
    Field.labelOf (some (Field.labelOf label)) = Field.labelOf label := by
  cases label with
  | none => rfl
  | some s =>
    by_cases blank : Text.isBlank s.toList = true
    · simp only [Field.labelOf, blank, if_true]
      rfl
    · have filled : ¬Text.isBlank (Text.trimmed s).toList = true := by
        rw [Text.trimmed, String.toList_ofList, ← Text.trim_eq_nil_iff, trim_trim,
          Text.trim_eq_nil_iff]
        exact blank
      simp only [Field.labelOf, blank, filled, if_false, Bool.false_eq_true]
      rw [Text.trimmed, Text.trimmed, String.toList_ofList, trim_trim]

theorem valuesOf_map_ok {ε α : Type} (as : List α) :
    valuesOf (as.map (.ok : α → Except ε α)) = as := by
  rw [valuesOf, List.filterMap_map]
  exact List.filterMap_some

theorem fieldOf_canonicalSpec (spec : FieldSpec) :
    fieldOf (canonicalSpec (fieldOf spec)) = fieldOf spec := by
  have rules : valuesOf (Declaration.readTokens spec.id (canonicalSpec (fieldOf spec)).rules) =
      (fieldOf spec).rules := by
    show valuesOf (Declaration.readTokens spec.id
      ("|".intercalate ((fieldOf spec).rules.map Rule.text))) = _
    rw [(written_fieldOf spec).readTokens_eq, valuesOf_map_ok]
  have label : Field.labelOf (canonicalSpec (fieldOf spec)).label = (fieldOf spec).label :=
    labelOf_labelOf spec.label
  show Field.mk spec.id (Field.labelOf (canonicalSpec (fieldOf spec)).label) spec.kind spec.group
    (valuesOf (Declaration.readTokens spec.id (canonicalSpec (fieldOf spec)).rules)) = _
  rw [rules, label]
  rfl

theorem declares_canonicalSpec_iff :
    Declares (canonicalSpec (fieldOf spec)) r ↔ Declares spec r := by
  have declared (spec : FieldSpec) : Declares spec r ↔ r ∈ (fieldOf spec).rules :=
    mem_readTokens_ok.symm
  rw [declared, declared, fieldOf_canonicalSpec]

theorem specErrors_canonicalSpec (noErrors : Field.specErrors isKnown spec = []) :
    Field.specErrors isKnown (canonicalSpec (fieldOf spec)) = [] := by
  rw [List.eq_nil_iff_forall_not_mem] at noErrors ⊢
  intro e mem
  obtain ⟨token, tokenMem, error⟩ := mem_specErrors.1 mem
  have written := written_fieldOf spec
  cases error with
  | unreadable read =>
    rw [canonicalSpec, written.tokens_eq] at tokenMem
    obtain ⟨r, rMem, rfl⟩ := List.mem_map.1 tokenMem
    rw [written.ofChars_text rMem] at read
    cases read
  | unknownTarget read names unknown =>
    obtain ⟨token', tokenMem', read'⟩ := declares_canonicalSpec_iff.1 ⟨token, tokenMem, read⟩
    exact noErrors _ (mem_specErrors.2 ⟨token', tokenMem', .unknownTarget read' names unknown⟩)

/-- A field that was read from a specification is read again from its canonical one. No rule is
printed as a blank text or with a bar, so that the tokens are the printed rules. -/
theorem canonical_spec_is_fixed (read : Field.ofSpec isKnown spec = .ok f) :
    Field.ofSpec isKnown (canonicalSpec f) = .ok f ∧
    (∀ r ∈ f.rules, '|' ∉ r.text.toList ∧ Text.isBlank r.text.toList = false) ∧
    (f.rules ≠ [] → Text.splitOn '|' (canonicalSpec f).rules.toList =
      f.rules.map fun r => r.text.toList) ∧
    (Declaration.tokens (canonicalSpec f).rules).map Rule.ofChars = f.rules.map .ok := by
  obtain ⟨noErrors, rfl⟩ := ofSpec_eq_ok_iff.1 read
  have written := written_fieldOf spec
  refine ⟨?_, ?_, written.splitOn_eq, ?_⟩
  · rw [ofSpec_eq_ok (specErrors_canonicalSpec noErrors), fieldOf_canonicalSpec]
  · exact fun r mem => ⟨written.bar_not_mem mem, isBlank_text r⟩
  · rw [canonicalSpec, written.tokens_eq, List.map_map]
    apply List.map_congr_left
    intro r mem
    exact written.ofChars_text mem

def spaced : FieldSpec where
  id := "repeat"
  label := some " Repeat it\t"
  rules := " min_length[ 0 07]| |in_list[ a b , ,c]|equal_to[pw , Your Password ]|less_than[-0.50]|"

theorem canonical_spec_of_spaced :
    ∃ f, Field.ofSpec (· == "pw") spaced = .ok f ∧
      (canonicalSpec f).rules =
        "min_length[7]|in_list[a b,,c]|equal_to[pw,Your Password]|less_than[-0.50]" ∧
      Field.ofSpec (· == "pw") (canonicalSpec f) = .ok f := by
  have read : Field.ofSpec (· == "pw") spaced = .ok (fieldOf spaced) :=
    ofSpec_eq_ok (by decide +kernel)
  exact ⟨_, read, by decide +kernel, (canonical_spec_is_fixed read).1⟩

end FormRules.Proofs.Configuration
