import FormRules.Proofs.Configuration.Validity
import FormRules.Proofs.Matching.Numbers

/-!
# What messages reveal

Of what is entered into a form, a violated rule passes on at most one bit: whether the value of a
comparison is a number. Beside that, its message depends on the field, and for `required_one_of` on
the member that speaks for the group. So a form that fails by the same rules has the same messages.
-/

namespace FormRules.Proofs.Message
open Evaluation Matching Proofs.Configuration

variable {f : Field} {r : Rule} {s t : Snapshot} {v : Violation} {c : Catalog}

def isNumeric (f : Field) (s : Snapshot) : Bool :=
  Pattern.numeric.accepts (valueOf f s)

def speaker (f : Field) (s : Snapshot) : String × String × FieldKind :=
  ((f.groupLeader s).id, (f.groupLeader s).label, (f.groupLeader s).kind)

def reported (f : Field) (numeric : Bool) (speaker : String × String × FieldKind) :
    Rule → Option Violation
  | .requiredOneOf =>
    (Field.groupKey? speaker.2.2).map fun key =>
      ⟨.requiredOneOf, key, speaker.1, [("field", speaker.2.1)]⟩
  | .comparison c n => some (if numeric then (Rule.comparison c n).violation f else f.notANumber c)
  | r => some (r.violation f)

theorem isNumeric_eq_isSome : isNumeric f s = (Rule.number? (valueOf f s)).isSome :=
  Bool.eq_iff_iff.2 isSome_number?_iff.symm

theorem Violates.eq_reported (violates : Violates f s r v) :
    some v = reported f (isNumeric f s) (speaker f s) r := by
  cases violates with
  | unchecked checkable unset => rfl
  | blank typed empty => rfl
  | group found unset =>
    simp only [reported, speaker, found]
    rfl
  | notANumber filled unread => simp [reported, isNumeric_eq_isSome, unread]
  | comparison filled read fails => simp [reported, isNumeric_eq_isSome, read]
  | other filled fails =>
    cases r with
    | requiredOneOf => cases fails
    | comparison c n => cases fails
    | _ => rfl

structure FailsAlike (f : Field) (r : Rule) (s t : Snapshot) : Prop where
  number : ∀ c n, r = .comparison c n → isNumeric f s = isNumeric f t
  group : r = .requiredOneOf → speaker f s = speaker f t

theorem FailsAlike.reported_eq (alike : FailsAlike f r s t) :
    reported f (isNumeric f s) (speaker f s) r = reported f (isNumeric f t) (speaker f t) r := by
  cases r with
  | requiredOneOf => simp only [reported, alike.group rfl]
  | comparison c n => simp only [reported, alike.number c n rfl]
  | _ => simp only [reported]

theorem FailsAlike.violation?_eq (alike : FailsAlike f r s t)
    (violated : (f.violation? s r).isSome = true) (violated' : (f.violation? t r).isSome = true) :
    f.violation? s r = f.violation? t r := by
  obtain ⟨v, found⟩ := Option.isSome_iff_exists.1 violated
  obtain ⟨w, found'⟩ := Option.isSome_iff_exists.1 violated'
  have first := Violates.eq_reported (violation?_eq_some_iff.1 found)
  have second := Violates.eq_reported (violation?_eq_some_iff.1 found')
  rw [found, found', first, second, alike.reported_eq]

def violatedAt (f : Field) (s : Snapshot) : Option Nat :=
  f.rules.findIdx? fun r => (f.violation? s r).isSome

theorem findSome?_eq_bind_findIdx? {α β : Type} (p : α → Option β) (as : List α) :
    as.findSome? p = (as.findIdx? fun a => (p a).isSome).bind fun i => as[i]?.bind p := by
  induction as with
  | nil => rfl
  | cons a as ih =>
    rw [List.findSome?_cons, List.findIdx?_cons]
    cases found : p a with
    | some b => simp [found]
    | none =>
      simp only [ih, Option.isSome_none, Bool.false_eq_true, if_false, Option.bind_map]
      rfl

theorem firstViolation?_eq_none (passes : violatedAt f s = none) : f.firstViolation? s = none := by
  rw [Field.firstViolation?, findSome?_eq_bind_findIdx?, ← violatedAt, passes, Option.bind_none]

theorem exists_rule_of_violatedAt {i : Nat} (first : violatedAt f s = some i) :
    ∃ r, f.rules[i]? = some r ∧ (f.violation? s r).isSome = true ∧
      f.firstViolation? s = f.violation? s r := by
  obtain ⟨bound, violated, -⟩ := List.findIdx?_eq_some_iff_getElem.1 first
  have rule : f.rules[i]? = some f.rules[i] := List.getElem?_eq_getElem bound
  refine ⟨f.rules[i], rule, violated, ?_⟩
  rw [Field.firstViolation?, findSome?_eq_bind_findIdx?, ← violatedAt, first, Option.bind_some,
    rule, Option.bind_some]

structure SameOutcome (f : Field) (s t : Snapshot) : Prop where
  position : violatedAt f s = violatedAt f t
  alike : ∀ i r, violatedAt f s = some i → f.rules[i]? = some r → FailsAlike f r s t

theorem SameOutcome.firstViolation?_eq (same : SameOutcome f s t) :
    f.firstViolation? s = f.firstViolation? t := by
  have position := same.position
  cases first : violatedAt f s with
  | none =>
    rw [first] at position
    rw [firstViolation?_eq_none first, firstViolation?_eq_none position.symm]
  | some i =>
    rw [first] at position
    obtain ⟨r, rule, violated, eq⟩ := exists_rule_of_violatedAt first
    obtain ⟨r', rule', violated', eq'⟩ := exists_rule_of_violatedAt position.symm
    have same_rule : r' = r := Option.some.inj (rule'.symm.trans rule)
    subst same_rule
    rw [eq, eq', (same.alike i r' first rule).violation?_eq violated violated']

theorem SameOutcome.evaluate_eq (same : SameOutcome f s t) (c : Catalog) :
    f.evaluate s c = f.evaluate t c := by
  simp only [Field.evaluate, same.firstViolation?_eq]

/-- An error tells nothing about what was entered except which rule of the field was the first to be
violated and, for a comparison, whether the value is a number. If that is the same for all
fields, then so is the whole report. -/
theorem errors_reveal_no_value {specs : List FieldSpec} {display : Option DisplayOptions}
    {form : Form} (built : Form.build specs c display = .ok form) :
    (∀ f ∈ form.fields, ∀ s t e e', form.evaluateField? f.id s = some (.error e) →
      form.evaluateField? f.id t = some (.error e') → SameOutcome f s t → e = e') ∧
    ∀ s t, (∀ f ∈ form.fields, SameOutcome f s t) → form.evaluate s = form.evaluate t := by
  constructor
  · intro f mem s t e e' failed failed' same
    rw [evaluateField?_of_mem built mem] at failed failed'
    rw [same.evaluate_eq c, failed'] at failed
    cases failed
    rfl
  · intro s t same
    have verdicts : (form.fields.map fun f => f.evaluate s form.catalog) =
        form.fields.map fun f => f.evaluate t form.catalog :=
      List.map_congr_left fun f mem => (same f mem).evaluate_eq form.catalog
    rw [Form.evaluate, Form.evaluate, evaluateForm, evaluateForm, verdicts]

def ageForm : Form where
  fields := [fieldOf age]
  catalog := ageMessages
  display := none

def aged (typed : String) : Snapshot :=
  (ageForm.values.setValue "age" typed).snapshot

def smallAges : List String :=
  ["12", " 3.5 ", "-170"]

def tooSmall : ErrorResult where
  fieldId := "age"
  rule := .comparison .greaterThan
  message := "More than 17, please"

theorem error_of_small_ages :
    Form.build [age] ageMessages none = .ok ageForm ∧ ∀ typed ∈ smallAges,
      SameOutcome (fieldOf age) (aged "12") (aged typed) ∧
      ageForm.evaluateField? "age" (aged typed) = some (.error tooSmall) ∧
      (ageForm.evaluate (aged typed)).errors = [tooSmall] := by
  have built : Form.build [age] ageMessages none = .ok ageForm :=
    build_eq_ok_iff.2 ⟨by decide +kernel, rfl⟩
  have position : ∀ typed ∈ smallAges,
      violatedAt (fieldOf age) (aged "12") = violatedAt (fieldOf age) (aged typed) := by
    decide +kernel
  have alike : ∀ typed ∈ smallAges,
      isNumeric (fieldOf age) (aged "12") = isNumeric (fieldOf age) (aged typed) ∧
        speaker (fieldOf age) (aged "12") = speaker (fieldOf age) (aged typed) := by
    decide +kernel
  have same (typed : String) (mem : typed ∈ smallAges) :
      SameOutcome (fieldOf age) (aged "12") (aged typed) :=
    ⟨position typed mem, fun _ _ _ _ =>
      ⟨fun _ _ _ => (alike typed mem).1, fun _ => (alike typed mem).2⟩⟩
  have failed : ∀ typed ∈ smallAges,
      ((ageForm.evaluateField? "age" (aged typed)).bind Verdict.error?).isSome = true := by
    decide +kernel
  have first : ageForm.evaluateField? "age" (aged "12") = some (.error tooSmall) ∧
      (ageForm.evaluate (aged "12")).errors = [tooSmall] := by
    decide +kernel
  obtain ⟨one, report⟩ := errors_reveal_no_value built
  refine ⟨built, fun typed mem => ⟨same typed mem, ?_, ?_⟩⟩
  · obtain ⟨e, found⟩ := Option.isSome_iff_exists.1 (failed typed mem)
    obtain ⟨v, evaluated, isError⟩ := Option.bind_eq_some_iff.1 found
    cases v with
    | success id => cases isError
    | error e' =>
      rw [evaluated, one _ List.mem_cons_self _ _ _ _ first.1 evaluated (same typed mem)]
  · rw [← report _ _ (by simpa [ageForm] using same typed mem), first.2]

end FormRules.Proofs.Message
