import FormRules.Message.Defaults
import FormRules.Proofs.Configuration.Errors
import FormRules.Proofs.Evaluation.Violation
import FormRules.Proofs.Reading.Joined

/-!
# Rules as a conjunction

The rules of a field are evaluated one after the other and do not know of each other. So two lists
of rules in a row give the verdict of the first list if it is an error and that of the second list
otherwise, and so do two rule texts with a bar between them.
-/

namespace FormRules.Proofs.Evaluation
open Proofs.Configuration Reading

variable {f g : Field} {s : Snapshot} {c : Catalog} {r : Rule} {v : Violation}
  {e : ErrorResult} {rules : List Rule}

def withRules (f : Field) (rules : List Rule) : Field :=
  { f with rules }

def inTurn : Verdict → Verdict → Verdict
  | .error e, _ => .error e
  | .success _, v => v

theorem violates_withRules (rules : List Rule) (violates : Violates f s r v) :
    Violates (withRules f rules) s r v := by
  cases violates with
  | unchecked checkable unset => exact .unchecked checkable unset
  | blank typed empty => exact .blank typed empty
  | group found unset => exact .group found unset
  | notANumber filled unread => exact .notANumber filled unread
  | comparison filled read fails => exact .comparison filled read fails
  | other filled fails => exact .other filled fails

theorem violation?_withRules (f : Field) (rules : List Rule) :
    (withRules f rules).violation? s = f.violation? s := by
  funext r
  ext v
  rw [violation?_eq_some_iff, violation?_eq_some_iff]
  constructor
  · intro violates
    -- putting the old rules back gives the field itself
    have back : Violates (withRules (withRules f rules) f.rules) s r v :=
      violates_withRules f.rules violates
    exact back
  · exact violates_withRules rules

theorem firstViolation?_withRules (f : Field) (rules : List Rule) :
    (withRules f rules).firstViolation? s = rules.findSome? (f.violation? s) := by
  rw [Field.firstViolation?, violation?_withRules, withRules]

theorem evaluate_append (f : Field) (rs ss : List Rule) :
    (withRules f (rs ++ ss)).evaluate s c =
      inTurn ((withRules f rs).evaluate s c) ((withRules f ss).evaluate s c) := by
  simp only [Field.evaluate, firstViolation?_withRules, List.findSome?_append]
  cases rs.findSome? (f.violation? s) with
  | some v => rfl
  | none => rfl

/-- The field passes if it has no rule but this one. -/
def Passes (f : Field) (s : Snapshot) (c : Catalog) (r : Rule) : Prop :=
  ((withRules f [r]).evaluate s c).isSuccess = true

theorem passes_iff : Passes f s c r ↔ f.violation? s r = none := by
  rw [Passes, isSuccess_evaluate_iff, violation?_withRules]
  exact List.forall_mem_singleton

theorem evaluate_single_eq_error_iff :
    (withRules f [r]).evaluate s c = .error e ↔
      ∃ v, f.violation? s r = some v ∧ v.result c = e := by
  rw [evaluate_eq_error_iff, firstViolation?_withRules, List.findSome?_singleton]

theorem isSuccess_iff_forall_passes :
    (f.evaluate s c).isSuccess = true ↔ ∀ r ∈ f.rules, Passes f s c r := by
  rw [isSuccess_evaluate_iff]
  exact forall₂_congr fun r _ => passes_iff.symm

theorem evaluate_eq_error_iff_first :
    f.evaluate s c = .error e ↔ ∃ before r after, f.rules = before ++ r :: after ∧
      (∀ q ∈ before, Passes f s c q) ∧ (withRules f [r]).evaluate s c = .error e := by
  rw [evaluate_eq_error_iff, Field.firstViolation?]
  simp only [passes_iff, evaluate_single_eq_error_iff, List.findSome?_eq_some_iff]
  constructor
  · rintro ⟨v, ⟨before, r, after, split, violated, obeyed⟩, reported⟩
    exact ⟨before, r, after, split, obeyed, v, violated, reported⟩
  · rintro ⟨before, r, after, split, obeyed, v, violated, reported⟩
    exact ⟨v, ⟨before, r, after, split, violated, obeyed⟩, reported⟩

theorem isSuccess_withRules_congr (same : ∀ r, r ∈ rules ↔ r ∈ f.rules) :
    ((withRules f rules).evaluate s c).isSuccess = (f.evaluate s c).isSuccess := by
  rw [Bool.eq_iff_iff, isSuccess_evaluate_iff, isSuccess_evaluate_iff, violation?_withRules]
  exact forall_congr' fun r => imp_congr_left (same r)

structure RulesInTurn (f : Field) (s : Snapshot) (c : Catalog) : Prop where
  append : ∀ rs ss, f.rules = rs ++ ss →
    f.evaluate s c = inTurn ((withRules f rs).evaluate s c) ((withRules f ss).evaluate s c)
  success_iff : (f.evaluate s c).isSuccess = true ↔ ∀ r ∈ f.rules, Passes f s c r
  error_iff : ∀ e, f.evaluate s c = .error e ↔ ∃ before r after, f.rules = before ++ r :: after ∧
    (∀ q ∈ before, Passes f s c q) ∧ (withRules f [r]).evaluate s c = .error e
  unordered : ∀ rules, (∀ r, r ∈ rules ↔ r ∈ f.rules) →
    ((withRules f rules).evaluate s c).isSuccess = (f.evaluate s c).isSuccess

theorem rulesInTurn (f : Field) (s : Snapshot) (c : Catalog) : RulesInTurn f s c where
  append rs ss split := by
    have whole : withRules f (rs ++ ss) = f := by rw [← split, withRules]
    rw [← evaluate_append, whole]
  success_iff := isSuccess_iff_forall_passes
  error_iff _ := evaluate_eq_error_iff_first
  unordered _ same := isSuccess_withRules_congr same

section Texts
variable {isKnown : String → Bool} {spec : FieldSpec} {first second : String}

theorem specErrors_append_eq_nil_iff :
    Field.specErrors isKnown { spec with rules := first ++ "|" ++ second } = [] ↔
      Field.specErrors isKnown { spec with rules := first } = [] ∧
        Field.specErrors isKnown { spec with rules := second } = [] := by
  simp only [Field.specErrors, readTokens_append, errorsOf_append, valuesOf_append,
    List.filterMap_append, List.append_eq_nil_iff]
  exact and_and_and_comm

theorem fieldOf_append (spec : FieldSpec) (first second : String) :
    fieldOf { spec with rules := first ++ "|" ++ second } =
      withRules (fieldOf spec) ((fieldOf { spec with rules := first }).rules ++
        (fieldOf { spec with rules := second }).rules) := by
  simp only [fieldOf, withRules, readTokens_append, valuesOf_append]

theorem evaluate_of_joined
    (readFirst : Field.ofSpec isKnown { spec with rules := first } = .ok f)
    (readSecond : Field.ofSpec isKnown { spec with rules := second } = .ok g) :
    ∃ h, Field.ofSpec isKnown { spec with rules := first ++ "|" ++ second } = .ok h ∧
      ∀ s c, h.evaluate s c = inTurn (f.evaluate s c) (g.evaluate s c) := by
  obtain ⟨noErrors, rfl⟩ := ofSpec_eq_ok_iff.1 readFirst
  obtain ⟨noErrors', rfl⟩ := ofSpec_eq_ok_iff.1 readSecond
  refine ⟨_, ofSpec_eq_ok (specErrors_append_eq_nil_iff.2 ⟨noErrors, noErrors'⟩), ?_⟩
  intro s c
  rw [fieldOf_append, evaluate_append]
  rfl

end Texts

/-- The rules of a field are evaluated in turn. They are read in turn as well, blank tokens giving
none, so the texts of two lists of rules stand for one list after the other. -/
theorem rules_are_a_conjunction :
    (∀ f s c, RulesInTurn f s c) ∧
    (∀ field first second, Declaration.read field (first ++ "|" ++ second) =
      both (Declaration.read field first) (Declaration.read field second)) ∧
    (∀ field text blank, Text.isBlank blank.toList = true →
      Declaration.read field (text ++ "|" ++ blank) = Declaration.read field text ∧
      Declaration.read field (blank ++ "|" ++ text) = Declaration.read field text) ∧
    ∀ isKnown (spec : FieldSpec) first second f g,
      Field.ofSpec isKnown { spec with rules := first } = .ok f →
      Field.ofSpec isKnown { spec with rules := second } = .ok g →
      ∃ h, Field.ofSpec isKnown { spec with rules := first ++ "|" ++ second } = .ok h ∧
        ∀ s c, h.evaluate s c = inTurn (f.evaluate s c) (g.evaluate s c) := by
  refine ⟨rulesInTurn, read_append, ?_, ?_⟩
  · intro field text blank isBlank
    exact ⟨read_append_blank field text isBlank, read_blank_append field text isBlank⟩
  · intro isKnown spec first second f g readFirst readSecond
    exact evaluate_of_joined readFirst readSecond

def nickname : FieldSpec where
  id := "nick"
  label := some "Nickname"
  rules := "min_length[5]|alpha"

def enteredNickname : Snapshot where
  field _ := some { value := "a1" }
  group _ := []

theorem nickname_rules_in_turn :
    (∃ h, Field.ofSpec (fun _ => true)
        { nickname with rules := "min_length[5]| " ++ "|" ++ "alpha" } = .ok h ∧
      h.evaluate enteredNickname .english =
        .error ⟨"nick", .minLength, "Nickname requires a minimum of 5 characters"⟩) ∧
    ((withRules (fieldOf nickname) [.pattern .alpha, .minLength 5, .pattern .alpha]).evaluate
      enteredNickname .english).isSuccess = false ∧
    Declaration.read "nick" ("alpha" ++ "|" ++ "\t") = .ok [.pattern .alpha] := by
  obtain ⟨inTurn, -, blank, joined⟩ := rules_are_a_conjunction
  have first : Field.ofSpec (fun _ => true) { nickname with rules := "min_length[5]| " } =
      .ok (fieldOf { nickname with rules := "min_length[5]| " }) :=
    ofSpec_eq_ok (by decide +kernel)
  have second : Field.ofSpec (fun _ => true) { nickname with rules := "alpha" } =
      .ok (fieldOf { nickname with rules := "alpha" }) :=
    ofSpec_eq_ok (by decide +kernel)
  have rules : (fieldOf nickname).rules = [.minLength 5] ++ [.pattern .alpha] := by decide +kernel
  refine ⟨?_, ?_, ?_⟩
  · obtain ⟨h, read, verdict⟩ := joined _ _ _ _ _ _ first second
    refine ⟨h, read, ?_⟩
    rw [verdict]
    decide +kernel
  · have unordered := (inTurn (fieldOf nickname) enteredNickname .english).unordered
    rw [unordered _ (by simp [rules, or_comm]), (inTurn _ _ _).append _ _ rules]
    decide +kernel
  · rw [(blank "nick" "alpha" "\t" (by decide)).1]
    decide +kernel

end FormRules.Proofs.Evaluation
