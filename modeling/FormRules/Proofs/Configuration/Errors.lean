import FormRules.Form
import Mathlib.Data.List.Basic

/-!
# The errors of a configuration

Where each error comes from: a token of a declaration, the messages of a rule, an id, or the
display options. `mem_configErrors` puts these together for a whole configuration.
-/

namespace FormRules.Proofs.Configuration
open Form

section Results
variable {ε α : Type}

theorem mem_errorsOf {results : List (Except ε α)} {e : ε} :
    e ∈ errorsOf results ↔ .error e ∈ results := by
  rw [errorsOf, List.mem_filterMap]
  constructor
  · rintro ⟨result, mem, eq⟩
    cases result with
    | error e' => exact Option.some.inj eq ▸ mem
    | ok a => cases eq
  · exact fun mem => ⟨_, mem, rfl⟩

theorem mem_valuesOf {results : List (Except ε α)} {a : α} :
    a ∈ valuesOf results ↔ .ok a ∈ results := by
  rw [valuesOf, List.mem_filterMap]
  constructor
  · rintro ⟨result, mem, eq⟩
    cases result with
    | error e => cases eq
    | ok a' => exact Option.some.inj eq ▸ mem
  · exact fun mem => ⟨_, mem, rfl⟩

theorem nodup_eraseDups [BEq α] [LawfulBEq α] (as : List α) : as.eraseDups.Nodup := by
  cases as with
  | nil => exact List.nodup_nil
  | cons a as =>
    rw [List.eraseDups_cons, List.nodup_cons, List.mem_eraseDups]
    exact ⟨by simp, nodup_eraseDups _⟩
termination_by as.length
decreasing_by exact Nat.lt_succ_of_le (List.length_filter_le _ _)

end Results

def Declares (spec : FieldSpec) (rule : Rule) : Prop :=
  ∃ token ∈ Declaration.tokens spec.rules, Rule.ofChars token = .ok rule

/-- What is wrong with one token, whatever the other tokens are. -/
inductive TokenError (known : String → Prop) (spec : FieldSpec) (token : List Char) :
    ConfigError → Prop where
  | unreadable {cause} (read : Rule.ofChars token = .error cause) :
      TokenError known spec token (.rule spec.id (Rule.label token) cause)
  | unknownTarget {rule target} (read : Rule.ofChars token = .ok rule)
      (names : rule.target? = some target) (unknown : ¬known target) :
      TokenError known spec token (.unknownTarget spec.id rule.name target)

theorem readToken_eq_ok_iff {field : String} {token : List Char} {rule : Rule} :
    Declaration.readToken field token = .ok rule ↔ Rule.ofChars token = .ok rule := by
  unfold Declaration.readToken
  cases Rule.ofChars token <;> simp

theorem readToken_eq_error_iff {field : String} {token : List Char} {e : ConfigError} :
    Declaration.readToken field token = .error e ↔
      ∃ cause, Rule.ofChars token = .error cause ∧ e = .rule field (Rule.label token) cause := by
  unfold Declaration.readToken
  cases Rule.ofChars token <;> simp [eq_comm]

theorem mem_readTokens_ok {spec : FieldSpec} {rule : Rule} :
    rule ∈ valuesOf (Declaration.readTokens spec.id spec.rules) ↔ Declares spec rule := by
  rw [mem_valuesOf, Declaration.readTokens, List.mem_map]
  simp only [readToken_eq_ok_iff, Declares]

theorem unknownTarget?_eq_some_iff {isKnown : String → Bool} {field : String} {rule : Rule}
    {e : ConfigError} :
    Field.unknownTarget? isKnown field rule = some e ↔
      ∃ target, rule.target? = some target ∧ isKnown target = false ∧
        e = .unknownTarget field rule.name target := by
  unfold Field.unknownTarget?
  cases rule.target? with
  | none => simp
  | some target =>
    simp only [Option.some.injEq, exists_eq_left']
    cases isKnown target <;> simp [eq_comm]

theorem mem_specErrors {isKnown : String → Bool} {spec : FieldSpec} {e : ConfigError} :
    e ∈ Field.specErrors isKnown spec ↔
      ∃ token ∈ Declaration.tokens spec.rules,
        TokenError (fun id => isKnown id = true) spec token e := by
  have unread : .error e ∈ Declaration.readTokens spec.id spec.rules ↔
      ∃ token ∈ Declaration.tokens spec.rules, ∃ cause, Rule.ofChars token = .error cause ∧
        e = .rule spec.id (Rule.label token) cause := by
    simp only [Declaration.readTokens, List.mem_map, readToken_eq_error_iff]
  simp only [Field.specErrors, List.mem_append, mem_errorsOf, unread, List.mem_filterMap,
    mem_readTokens_ok, unknownTarget?_eq_some_iff]
  constructor
  · rintro (⟨token, mem, cause, read, rfl⟩ | ⟨rule, ⟨token, mem, read⟩, other⟩)
    · exact ⟨token, mem, .unreadable read⟩
    · obtain ⟨target, names, unknown, rfl⟩ := other
      exact ⟨token, mem, .unknownTarget read names (by simp [unknown])⟩
  · rintro ⟨token, mem, error⟩
    cases error with
    | unreadable read => exact .inl ⟨token, mem, _, read, rfl⟩
    | unknownTarget read names unknown =>
      exact .inr ⟨_, ⟨token, mem, read⟩, _, names, by simpa using unknown, rfl⟩

/-! ## Fields -/

def fieldOf (spec : FieldSpec) : Field where
  id := spec.id
  label := Field.labelOf spec.label
  kind := spec.kind
  declaredGroup := spec.group
  rules := valuesOf (Declaration.readTokens spec.id spec.rules)

theorem ofSpec_eq_ok {isKnown : String → Bool} {spec : FieldSpec}
    (noErrors : Field.specErrors isKnown spec = []) :
    Field.ofSpec isKnown spec = .ok (fieldOf spec) := by
  simp [Field.ofSpec_eq, noErrors, fieldOf]

theorem ofSpec_eq_error {isKnown : String → Bool} {spec : FieldSpec}
    (errors : Field.specErrors isKnown spec ≠ []) :
    Field.ofSpec isKnown spec = .error (Field.specErrors isKnown spec) := by
  simp [Field.ofSpec_eq, errors]

theorem ofSpec_eq_ok_iff {isKnown : String → Bool} {spec : FieldSpec} {f : Field} :
    Field.ofSpec isKnown spec = .ok f ↔ Field.specErrors isKnown spec = [] ∧ f = fieldOf spec := by
  by_cases noErrors : Field.specErrors isKnown spec = []
  · rw [ofSpec_eq_ok noErrors, Except.ok.injEq]
    exact ⟨fun eq => ⟨noErrors, eq.symm⟩, fun h => h.2.symm⟩
  · simp [ofSpec_eq_error noErrors, noErrors]

def Declared (specs : List FieldSpec) (id : String) : Prop :=
  ∃ spec ∈ specs, spec.id = id

theorem declares_iff {specs : List FieldSpec} {id : String} :
    declares specs id = true ↔ Declared specs id := by
  simp [declares, Declared]

def Clean (specs : List FieldSpec) (spec : FieldSpec) : Prop :=
  ∀ token ∈ Declaration.tokens spec.rules, ∀ e, ¬TokenError (Declared specs) spec token e

theorem mem_specErrors_declared {specs : List FieldSpec} {spec : FieldSpec} {e : ConfigError} :
    e ∈ Field.specErrors (declares specs) spec ↔
      ∃ token ∈ Declaration.tokens spec.rules, TokenError (Declared specs) spec token e := by
  have known : (fun id => declares specs id = true) = Declared specs :=
    funext fun id => propext declares_iff
  rw [mem_specErrors, known]

theorem specErrors_eq_nil_iff {specs : List FieldSpec} {spec : FieldSpec} :
    Field.specErrors (declares specs) spec = [] ↔ Clean specs spec := by
  simp only [List.eq_nil_iff_forall_not_mem, mem_specErrors_declared, Clean]
  exact ⟨fun noErrors token mem e error => noErrors e ⟨token, mem, error⟩,
    fun clean e ⟨token, mem, error⟩ => clean token mem e error⟩

/-- An error in a message that some rule of the field may need. -/
def MessageError (c : Catalog) (spec : FieldSpec) (e : ConfigError) : Prop :=
  ∃ rule, Declares spec rule ∧ e ∈ c.checkRule spec.id rule

def messageErrors (c : Catalog) (spec : FieldSpec) : List ConfigError :=
  (fieldOf spec).rules.flatMap (c.checkRule spec.id)

theorem mem_messageErrors {c : Catalog} {spec : FieldSpec} {e : ConfigError} :
    e ∈ messageErrors c spec ↔ MessageError c spec e := by
  simp only [messageErrors, fieldOf, List.mem_flatMap, mem_readTokens_ok, MessageError]

theorem mem_fieldErrors {specs : List FieldSpec} {spec : FieldSpec} {c : Catalog}
    {e : ConfigError} :
    e ∈ fieldErrors c (Field.ofSpec (declares specs) spec) ↔
      (∃ token ∈ Declaration.tokens spec.rules, TokenError (Declared specs) spec token e) ∨
        Clean specs spec ∧ MessageError c spec e := by
  rw [← mem_specErrors_declared, ← specErrors_eq_nil_iff]
  by_cases noErrors : Field.specErrors (declares specs) spec = []
  · rw [ofSpec_eq_ok noErrors, fieldErrors, ← mem_messageErrors]
    simp [messageErrors, fieldOf, noErrors]
  · rw [ofSpec_eq_error noErrors]
    simp [fieldErrors, noErrors]

/-! ## Whole configurations -/

variable {specs : List FieldSpec} {c : Catalog} {display : Option DisplayOptions} {form : Form}

theorem eq_of_mem_idErrors {seen : List String} {e : ConfigError}
    (mem : e ∈ idErrors seen specs) : e = .emptyFieldId ∨ ∃ id, e = .duplicateField id := by
  induction specs generalizing seen with
  | nil => cases mem
  | cons spec specs ih =>
    unfold idErrors at mem
    split at mem
    · exact (List.mem_cons.1 mem).elim .inl ih
    · split at mem
      · exact (List.mem_cons.1 mem).elim (fun eq => .inr ⟨_, eq⟩) ih
      · exact ih mem

def displayErrors : Option DisplayOptions → List ConfigError
  | none => []
  | some options => options.check

theorem mem_configErrors {e : ConfigError} :
    e ∈ configErrors specs c display ↔
      e ∈ displayErrors display ∨ e ∈ idErrors [] specs ∨
        ∃ spec ∈ specs,
          (∃ token ∈ Declaration.tokens spec.rules, TokenError (Declared specs) spec token e) ∨
            Clean specs spec ∧ MessageError c spec e := by
  have checked : configErrors specs c display = (displayErrors display ++ idErrors [] specs ++
      (readFields specs).flatMap (fieldErrors c)).eraseDups := by
    cases display <;> rfl
  simp only [checked, List.mem_eraseDups, List.mem_append, List.mem_flatMap, readFields,
    List.mem_map, exists_exists_and_eq_and, mem_fieldErrors, or_assoc]

theorem configErrors_eq_nil_iff :
    configErrors specs c display = [] ↔
      displayErrors display = [] ∧ idErrors [] specs = [] ∧ ∀ spec ∈ specs,
        Clean specs spec ∧ ∀ rule, Declares spec rule → c.checkRule spec.id rule = [] := by
  simp only [List.eq_nil_iff_forall_not_mem, mem_configErrors, not_or]
  constructor
  · intro noErrors
    refine ⟨fun e => (noErrors e).1, fun e => (noErrors e).2.1, fun spec mem => ?_⟩
    have clean : Clean specs spec := fun token tokenMem e error =>
      (noErrors e).2.2 ⟨spec, mem, .inl ⟨token, tokenMem, error⟩⟩
    exact ⟨clean, fun rule declared e error =>
      (noErrors e).2.2 ⟨spec, mem, .inr ⟨clean, rule, declared, error⟩⟩⟩
  · rintro ⟨display, ids, fields⟩ e
    refine ⟨display e, ids e, ?_⟩
    rintro ⟨spec, mem, ⟨token, tokenMem, error⟩ | ⟨-, rule, declared, error⟩⟩
    · exact (fields spec mem).1 token tokenMem e error
    · exact (fields spec mem).2 rule declared e error

theorem nodup_configErrors (specs : List FieldSpec) (c : Catalog)
    (display : Option DisplayOptions) : (configErrors specs c display).Nodup :=
  nodup_eraseDups _

theorem build_eq_error_iff {errors : List ConfigError} :
    build specs c display = .error errors ↔
      configErrors specs c display = errors ∧ errors ≠ [] := by
  simp only [build, List.isEmpty_iff]
  split
  · rename_i noErrors
    simp [noErrors, eq_comm]
  · rename_i found
    rw [Except.error.injEq]
    exact ⟨fun eq => ⟨eq, eq ▸ found⟩, And.left⟩

theorem valuesOf_readFields (clean : ∀ spec ∈ specs, Clean specs spec) :
    valuesOf (readFields specs) = specs.map fieldOf := by
  have read : readFields specs = (specs.map fieldOf).map .ok := by
    rw [readFields, List.map_map]
    exact List.map_congr_left fun spec mem =>
      ofSpec_eq_ok (specErrors_eq_nil_iff.2 (clean spec mem))
  rw [read, valuesOf, List.filterMap_map]
  exact List.filterMap_some

theorem build_eq_ok_iff :
    build specs c display = .ok form ↔
      configErrors specs c display = [] ∧ form = ⟨specs.map fieldOf, c, display⟩ := by
  simp only [build, List.isEmpty_iff]
  split
  · rename_i noErrors
    have clean : ∀ spec ∈ specs, Clean specs spec := fun spec mem =>
      ((configErrors_eq_nil_iff.1 noErrors).2.2 spec mem).1
    rw [valuesOf_readFields clean, Except.ok.injEq]
    exact ⟨fun eq => ⟨noErrors, eq.symm⟩, fun h => h.2.symm⟩
  · rename_i found
    simp [found]

theorem catalog_of_build (built : build specs c display = .ok form) : form.catalog = c := by
  obtain ⟨-, rfl⟩ := build_eq_ok_iff.1 built
  rfl

theorem checkRule_eq_nil_of_build (built : build specs c display = .ok form)
    {f : Field} (mem : f ∈ form.fields) {r : Rule} (rule : r ∈ f.rules) :
    c.checkRule f.id r = [] := by
  obtain ⟨noErrors, rfl⟩ := build_eq_ok_iff.1 built
  obtain ⟨spec, specMem, rfl⟩ := List.mem_map.1 mem
  exact ((configErrors_eq_nil_iff.1 noErrors).2.2 spec specMem).2 r (mem_readTokens_ok.1 rule)

end FormRules.Proofs.Configuration
