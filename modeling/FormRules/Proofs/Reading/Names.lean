import FormRules.Proofs.Reading.Tokens

/-!
# Names of tokens

A token names a rule by what stands before its first bracket, white space apart. A token that is no
rule is reported under a label that is read off in another way; the two are the same whenever the
name is one of a rule.
-/

namespace FormRules.Proofs.Reading
open Text

inductive Names : List Char → RuleName → Prop where
  | alone {cs n} (bare : '[' ∉ cs) (name : strip cs = n.name.toList) : Names cs n
  | before {head rest n} (first : '[' ∉ head) (name : strip head = n.name.toList) :
      Names (head ++ '[' :: rest) n

inductive ConcernsParameter : RuleError → Prop where
  | invalid (value : String) : ConcernsParameter (.invalidParam value)
  | missing : ConcernsParameter .missingParam
  | unexpected : ConcernsParameter .unexpectedParam

variable {c : Char} {cs token spaces before after : List Char} {n : RuleName} {cause : RuleError}

theorem isBlank_iff : isBlank cs = true ↔ ∀ c ∈ cs, isSpace c = true :=
  List.all_eq_true

theorem strip_eq_nil_iff : strip cs = [] ↔ isBlank cs = true := by
  simp [strip, isBlank_iff, List.filter_eq_nil_iff]

theorem strip_append : strip (before ++ after) = strip before ++ strip after :=
  List.filter_append ..

theorem strip_strip (cs : List Char) : strip (strip cs) = strip cs := by
  simp [strip]

theorem exists_blank_trim_blank (cs : List Char) :
    ∃ before after, cs = before ++ (trim cs ++ after) ∧ isBlank before = true ∧
      isBlank after = true := by
  let inner := cs.dropWhile isSpace
  have spacesOf (ds : List Char) : isBlank (ds.takeWhile isSpace) = true :=
    List.all_takeWhile
  refine ⟨cs.takeWhile isSpace, (inner.reverse.takeWhile isSpace).reverse, ?_, spacesOf cs, ?_⟩
  · have ending : trim cs ++ (inner.reverse.takeWhile isSpace).reverse = inner := by
      show (inner.reverse.dropWhile isSpace).reverse ++ _ = _
      rw [← List.reverse_append, List.takeWhile_append_dropWhile, List.reverse_reverse]
    rw [ending, List.takeWhile_append_dropWhile]
  · rw [isBlank, List.all_reverse]
    exact spacesOf inner.reverse

theorem strip_trim (cs : List Char) : strip (trim cs) = strip cs := by
  obtain ⟨before, after, split, start, ending⟩ := exists_blank_trim_blank cs
  conv_rhs => rw [split]
  rw [strip_append, strip_append, strip_eq_nil_iff.2 start, strip_eq_nil_iff.2 ending]
  simp

theorem open_not_mem_of_isBlank (blank : isBlank spaces = true) : '[' ∉ spaces := by
  intro mem
  have space := isBlank_iff.1 blank _ mem
  cases space

theorem Names.of_trim (names : Names (trim token) n) : Names token n := by
  obtain ⟨before, after, split, start, ending⟩ := exists_blank_trim_blank token
  have noStart := open_not_mem_of_isBlank start
  generalize inner : trim token = cs at names
  rw [inner] at split
  cases names with
  | alone bare name =>
    have same : strip token = strip cs := by rw [← inner, strip_trim]
    refine .alone ?_ (same.trans name)
    rw [split]
    simp [noStart, bare, open_not_mem_of_isBlank ending]
  | @before head rest _ first name =>
    rw [split, List.append_assoc, List.cons_append, ← List.append_assoc]
    refine .before (by simp [noStart, first]) ?_
    rw [strip_append, strip_eq_nil_iff.2 start, List.nil_append, name]

theorem label_of_names (names : Names token n) : Rule.label token = n.name := by
  have other {cs : List Char} (bare : '[' ∉ cs) (c : Char) (mem : c ∈ cs) :
      (c != '[') = true := by
    rw [bne_iff_ne]
    exact fun same => bare (same ▸ mem)
  have head : strip (token.takeWhile fun c => c != '[') = n.name.toList := by
    cases names with
    | alone bare name => rw [List.takeWhile_eq_self_iff.2 (other bare), name]
    | before first name =>
      rw [List.takeWhile_append_of_pos (other first), List.takeWhile_cons_of_neg (by simp),
        List.append_nil, name]
  have filled : n.name.toList.isEmpty = false := by simpa using name_ne_empty n
  simp [Rule.label, head, filled]

theorem isBlank_label (filled : isBlank token = false) :
    isBlank (Rule.label token).toList = false := by
  rw [Rule.label, String.toList_ofList]
  split
  · rw [Bool.eq_false_iff, ne_eq, ← trim_eq_nil_iff, trim_trim, trim_eq_nil_iff, filled]
    exact Bool.false_ne_true
  · rename_i named
    rw [Bool.eq_false_iff, ne_eq, ← strip_eq_nil_iff, strip_strip]
    simpa using named

theorem bind_eq_error_iff {ε α β : Type} {x : Except ε α} {f : α → Except ε β} {e : ε} :
    (x >>= f) = .error e ↔ x = .error e ∨ ∃ a, x = .ok a ∧ f a = .error e := by
  cases x <;> simp [bind, Except.bind]

theorem eq_of_ruleName_error (unknown : Rule.ruleName cs = .error cause) :
    cause = .unknownRule := by
  unfold Rule.ruleName at unknown
  split at unknown
  · cases unknown
  · exact (Except.error.inj unknown).symm

/-- The name of a rule is looked at before its parameter. -/
theorem exists_names_of_ofTrimmed (refused : Rule.ofTrimmed cs = .error cause)
    (concerns : ConcernsParameter cause) : ∃ n, Names cs n := by
  unfold Rule.ofTrimmed at refused
  split at refused
  · rename_i bare
    rcases bind_eq_error_iff.1 refused with unknown | ⟨n, name, -⟩
    · rw [eq_of_ruleName_error unknown] at concerns
      cases concerns
    · exact ⟨n, .alone (splitOnce?_eq_none_iff.1 bare) (ruleName_eq_ok_iff.1 name)⟩
  · rename_i head rest cut
    obtain ⟨rfl, first⟩ := splitOnce?_eq_some_iff.1 cut
    split at refused
    · cases refused
      cases concerns
    · rcases bind_eq_error_iff.1 refused with unknown | ⟨n, name, -⟩
      · rw [eq_of_ruleName_error unknown] at concerns
        cases concerns
      · exact ⟨n, .before first (ruleName_eq_ok_iff.1 name)⟩

theorem exists_names_of_ofChars (refused : Rule.ofChars token = .error cause)
    (concerns : ConcernsParameter cause) : ∃ n, Names token n := by
  obtain ⟨n, names⟩ := exists_names_of_ofTrimmed refused concerns
  exact ⟨n, names.of_trim⟩

end FormRules.Proofs.Reading
