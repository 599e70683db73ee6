import FormRules.Proofs.Configuration.Errors
import FormRules.Proofs.Reading.Names

/-!
# Errors of tokens

What is wrong with a token is reported whatever the other tokens of the field are: first the tokens
that are no rules, then those that compare with an unknown field, each in the order of the tokens.
That the rules are read a second time if some token is none does not matter.
-/

namespace FormRules.Proofs.Configuration
open Reading

variable {isKnown : String → Bool} {field declaration : String} {spec : FieldSpec}
  {token : List Char} {e : ConfigError}

def parseError? (field : String) (token : List Char) : Option ConfigError :=
  match Rule.ofChars token with
  | .ok _ => none
  | .error cause => some (.rule field (Rule.label token) cause)

def targetError? (isKnown : String → Bool) (field : String) (token : List Char) :
    Option ConfigError :=
  match Rule.ofChars token with
  | .ok rule => Field.unknownTarget? isKnown field rule
  | .error _ => none

/-- The token is a rule, and the field it compares with, if any, is known. -/
def IsRule (isKnown : String → Bool) (token : List Char) : Prop :=
  ∃ rule, Rule.ofChars token = .ok rule ∧
    ∀ target, rule.target? = some target → isKnown target = true

theorem unknownTarget?_eq_none_iff {rule : Rule} :
    Field.unknownTarget? isKnown field rule = none ↔
      ∀ target, rule.target? = some target → isKnown target = true := by
  unfold Field.unknownTarget?
  cases rule.target? with
  | none => simp
  | some target => simp

theorem isRule_iff : IsRule isKnown token ↔
    parseError? field token = none ∧ targetError? isKnown field token = none := by
  unfold IsRule parseError? targetError?
  cases Rule.ofChars token with
  | error cause => simp
  | ok rule => simp [unknownTarget?_eq_none_iff]

theorem parseError?_eq_some_iff : parseError? field token = some e ↔
    ∃ cause, Rule.ofChars token = .error cause ∧ e = .rule field (Rule.label token) cause := by
  unfold parseError?
  cases Rule.ofChars token <;> simp [eq_comm]

def tokenErrors (isKnown : String → Bool) (spec : FieldSpec) : List ConfigError :=
  (Declaration.tokens spec.rules).filterMap (parseError? spec.id) ++
    (Declaration.tokens spec.rules).filterMap (targetError? isKnown spec.id)

theorem errorsOf_readTokens : errorsOf (Declaration.readTokens field declaration) =
    (Declaration.tokens declaration).filterMap (parseError? field) := by
  rw [errorsOf, Declaration.readTokens, List.filterMap_map]
  congr 1
  funext token
  cases read : Rule.ofChars token <;> simp [Declaration.readToken, parseError?, read]

theorem filterMap_readable :
    (Declaration.readable declaration).filterMap (Field.unknownTarget? isKnown field) =
      (Declaration.tokens declaration).filterMap (targetError? isKnown field) := by
  rw [Declaration.readable, List.filterMap_filterMap]
  congr 1
  funext token
  cases read : Rule.ofChars token <;> simp [Except.toOption, targetError?, read]

theorem specErrors_eq : Field.specErrors isKnown spec = tokenErrors isKnown spec := by
  rw [Field.specErrors, Declaration.valuesOf_readTokens, errorsOf_readTokens, filterMap_readable,
    tokenErrors]

theorem tokenErrors_eq_nil_iff : tokenErrors isKnown spec = [] ↔
    ∀ token ∈ Declaration.tokens spec.rules, IsRule isKnown token := by
  rw [tokenErrors, List.append_eq_nil_iff, List.filterMap_eq_nil_iff, List.filterMap_eq_nil_iff,
    ← forall₂_and]
  exact forall₂_congr fun token _ => isRule_iff.symm

theorem ofSpec_eq_error_iff {errors : List ConfigError} :
    Field.ofSpec isKnown spec = .error errors ↔
      errors ≠ [] ∧ errors = tokenErrors isKnown spec := by
  rw [← specErrors_eq]
  by_cases noErrors : Field.specErrors isKnown spec = []
  · rw [ofSpec_eq_ok noErrors, noErrors]
    simp
  · rw [ofSpec_eq_error noErrors, Except.error.injEq, eq_comm (a := errors)]
    exact ⟨fun same => ⟨same ▸ noErrors, same⟩, And.right⟩

theorem isBlank_of_mem_tokens (mem : token ∈ Declaration.tokens declaration) :
    Text.isBlank token = false := by
  simpa using (List.mem_filter.1 mem).2

/-- A field can be read exactly if each of its tokens can be, and the errors are otherwise those of
the tokens one by one. Reading the tokens that are rules once more gives the rules of the first
time. A token that is no rule has a label, the name of the rule if the parameter is to blame. -/
theorem tokens_reported_one_by_one (isKnown : String → Bool) (spec : FieldSpec) :
    ((∃ f, Field.ofSpec isKnown spec = .ok f) ↔
      ∀ token ∈ Declaration.tokens spec.rules, IsRule isKnown token) ∧
    (∀ errors, Field.ofSpec isKnown spec = .error errors ↔
      errors ≠ [] ∧ errors = tokenErrors isKnown spec) ∧
    (∀ rules, Declaration.read spec.id spec.rules = .ok rules →
      Declaration.readable spec.rules = rules) ∧
    ∀ token ∈ Declaration.tokens spec.rules, ∀ e, parseError? spec.id token = some e →
      ∃ label cause, e = .rule spec.id label cause ∧ Rule.ofChars token = .error cause ∧
        Text.isBlank label.toList = false ∧
        (ConcernsParameter cause → ∃ n, Names token n ∧ label = n.name) := by
  refine ⟨?_, fun errors => ofSpec_eq_error_iff, ?_, ?_⟩
  · rw [← tokenErrors_eq_nil_iff, ← specErrors_eq]
    simp only [ofSpec_eq_ok_iff, exists_and_left, exists_eq, and_true]
  · intro rules read
    have values : (Declaration.rulesAndErrors spec.id spec.rules).1 = rules := by
      rw [Declaration.rulesAndErrors, read]
    rw [← Declaration.valuesOf_readTokens spec.id, ← values, Declaration.rulesAndErrors_eq]
  · intro token mem e reported
    obtain ⟨cause, refused, rfl⟩ := parseError?_eq_some_iff.1 reported
    refine ⟨_, cause, rfl, refused, isBlank_label (isBlank_of_mem_tokens mem), ?_⟩
    intro concerns
    obtain ⟨n, names⟩ := exists_names_of_ofChars refused concerns
    exact ⟨n, names, label_of_names names⟩

def strayBrackets : FieldSpec where
  id := "a"
  rules := " equal_to [nope, Nope]|min_ length[ x ]|in_list[a[b]]| |[5]|date|e mail [y]|required"

theorem errors_of_stray_brackets :
    Field.ofSpec (· == "a") strayBrackets = .error
      [.rule "a" "min_length" (.invalidParam "x"),
        .rule "a" "in_list" (.malformed "in_list[a[b]]"),
        .rule "a" "[5]" .unknownRule,
        .rule "a" "date" .missingParam,
        .rule "a" "email" .unexpectedParam,
        .unknownTarget "a" .equalTo "nope"] := by
  obtain ⟨-, error_iff, -, -⟩ := tokens_reported_one_by_one (· == "a") strayBrackets
  apply (error_iff _).2
  exact ⟨List.cons_ne_nil _ _, by decide +kernel⟩

end FormRules.Proofs.Configuration
