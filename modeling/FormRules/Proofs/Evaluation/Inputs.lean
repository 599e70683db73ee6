import FormRules.Message.Defaults
import FormRules.Proofs.Entry.Edits
import FormRules.Proofs.Evaluation.Violation
import Mathlib.Data.List.Basic

/-!
# The inputs of a verdict

A rule looks at the trimmed value of its field and, by its kind, at the value as it was typed, at
the checked flag, at the value of one other field or at the members of a group. Where two snapshots
agree on what the rules of a field look at, the field gets the same verdict.
-/

namespace FormRules.Proofs.Evaluation
open Entry

variable {f : Field} {s t : Snapshot} {r : Rule} {v : Violation}

abbrev rawValue (s : Snapshot) (id : String) : String :=
  ((s.field id).getD {}).value

/-- Whether a rule takes the value of its field with the white space around it. -/
def readsRaw : Rule → Bool
  | .date _ => true
  | .equalTo _ => true
  | .differentFrom _ => true
  | _ => false

def readsChecked (kind : FieldKind) : Rule → Bool
  | .required => kind.isCheckable
  | .requiredOneOf => true
  | _ => false

structure AgreeFor (f : Field) (r : Rule) (s t : Snapshot) : Prop where
  value : valueOf f s = valueOf f t
  raw : readsRaw r = true → rawValue s f.id = rawValue t f.id
  checked : readsChecked f.kind r = true → (stateOf f s).checked = (stateOf f t).checked
  target : ∀ id, r.target? = some id → rawValue s id = rawValue t id
  members : r = .requiredOneOf → s.group f.group = t.group f.group

theorem AgreeFor.symm (agree : AgreeFor f r s t) : AgreeFor f r t s where
  value := agree.value.symm
  raw reads := (agree.raw reads).symm
  checked reads := (agree.checked reads).symm
  target id names := (agree.target id names).symm
  members group := (agree.members group).symm

theorem AgreeFor.groupLeader_eq (agree : AgreeFor f .requiredOneOf s t) :
    f.groupLeader s = f.groupLeader t := by
  have members := agree.members rfl
  have checked := agree.checked rfl
  simp only [Field.groupLeader, members, checked]

theorem AgreeFor.groupIsChecked_eq (agree : AgreeFor f .requiredOneOf s t) :
    f.groupIsChecked s = f.groupIsChecked t := by
  have members := agree.members rfl
  have checked := agree.checked rfl
  simp only [Field.groupIsChecked, members, checked]

theorem AgreeFor.holds_eq (agree : AgreeFor f r s t) :
    r.holds s (stateOf f s).value (valueOf f s) = r.holds t (stateOf f t).value (valueOf f t) := by
  have value := agree.value
  cases r with
  | equalTo ref =>
    have own := agree.raw rfl
    have other := agree.target ref.target rfl
    simp only [Rule.holds, own, other]
  | differentFrom ref =>
    have own := agree.raw rfl
    have other := agree.target ref.target rfl
    simp only [Rule.holds, own, other]
  | date d =>
    have own := agree.raw rfl
    simp only [Rule.holds, own]
  | _ => simp only [Rule.holds, value]

theorem Violates.of_agreeFor (agree : AgreeFor f r s t) (violates : Violates f s r v) :
    Violates f t r v := by
  have value := agree.value
  cases violates with
  | unchecked checkable unset =>
    apply Violates.unchecked checkable
    rw [← agree.checked checkable, unset]
  | blank typed empty =>
    apply Violates.blank typed
    rw [← value, empty]
  | group found unset =>
    rw [agree.groupLeader_eq] at found ⊢
    rw [agree.groupIsChecked_eq] at unset
    exact .group found unset
  | notANumber filled unread =>
    rw [value] at filled unread
    exact .notANumber filled unread
  | comparison filled read fails =>
    rw [value] at filled read
    exact .comparison filled read fails
  | other filled fails =>
    rw [agree.holds_eq] at fails
    rw [value] at filled
    exact .other filled fails

theorem AgreeFor.violation?_eq (agree : AgreeFor f r s t) :
    f.violation? s r = f.violation? t r := by
  ext v
  rw [violation?_eq_some_iff, violation?_eq_some_iff]
  exact ⟨Violates.of_agreeFor agree, Violates.of_agreeFor agree.symm⟩

theorem agreeFor_of_states {values values' : FormValues} (same : values.states = values'.states)
    (single : r ≠ .requiredOneOf) :
    AgreeFor f r values.snapshot values'.snapshot := by
  have field := field_snapshot_congr same
  refine ⟨?_, fun _ => ?_, fun _ => ?_, fun _ _ => ?_, fun group => absurd group single⟩
  · simp only [valueOf, stateOf, field]
  · simp only [rawValue, field]
  · simp only [stateOf, field]
  · simp only [rawValue, field]

theorem firstViolation?_congr (same : ∀ r ∈ f.rules, f.violation? s r = f.violation? t r) :
    f.firstViolation? s = f.firstViolation? t := by
  have found : f.rules.filterMap (f.violation? s) = f.rules.filterMap (f.violation? t) :=
    List.filterMap_congr same
  rw [Field.firstViolation?, Field.firstViolation?, ← List.head?_filterMap, found,
    List.head?_filterMap]

structure AgreeOnInputs (f : Field) (s t : Snapshot) : Prop where
  value : valueOf f s = valueOf f t
  raw : (∃ r ∈ f.rules, readsRaw r = true) → rawValue s f.id = rawValue t f.id
  checked : (∃ r ∈ f.rules, readsChecked f.kind r = true) →
    (stateOf f s).checked = (stateOf f t).checked
  targets : ∀ r ∈ f.rules, ∀ id, r.target? = some id → rawValue s id = rawValue t id
  members : .requiredOneOf ∈ f.rules → s.group f.group = t.group f.group

theorem AgreeOnInputs.agreeFor (agree : AgreeOnInputs f s t) (mem : r ∈ f.rules) :
    AgreeFor f r s t where
  value := agree.value
  raw reads := agree.raw ⟨r, mem, reads⟩
  checked reads := agree.checked ⟨r, mem, reads⟩
  target := agree.targets r mem
  members group := agree.members (group ▸ mem)

theorem AgreeOnInputs.firstViolation?_eq (agree : AgreeOnInputs f s t) :
    f.firstViolation? s = f.firstViolation? t :=
  firstViolation?_congr fun _ mem => (agree.agreeFor mem).violation?_eq

section Elsewhere
variable {values : FormValues} {edits : List Edit}

structure Elsewhere (f : Field) (values : FormValues) (edits : List Edit) : Prop where
  own : f.id ∉ named edits
  targets : ∀ r ∈ f.rules, ∀ id, r.target? = some id → id ∉ named edits
  members : .requiredOneOf ∈ f.rules → ∀ m ∈ values.members, m.group = f.group → m.id ∉ named edits

theorem Elsewhere.agreeOnInputs (elsewhere : Elsewhere f values edits) :
    AgreeOnInputs f (fill values edits).snapshot values.snapshot := by
  have own : (fill values edits).state? f.id = values.state? f.id :=
    state?_fill_of_not_mem elsewhere.own
  have state : stateOf f (fill values edits).snapshot = stateOf f values.snapshot := by
    simp only [stateOf, FormValues.snapshot, own]
  refine ⟨?_, fun _ => ?_, fun _ => ?_, ?_, fun group => ?_⟩
  · simp only [valueOf, state]
  · exact congrArg FieldState.value state
  · exact congrArg FieldState.checked state
  · intro r mem id names
    have untouched := state?_fill_of_not_mem (v := values) (elsewhere.targets r mem id names)
    simp only [rawValue, FormValues.snapshot, untouched]
  · exact group_fill_of_not_mem (elsewhere.members group)

end Elsewhere

theorem verdict_of_inputs (f : Field) (c : Catalog) :
    (∀ s t, AgreeOnInputs f s t → f.evaluate s c = f.evaluate t c) ∧
    ∀ values edits, Elsewhere f values edits →
      f.evaluate (fill values edits).snapshot c = f.evaluate values.snapshot c := by
  have agreeing (s t : Snapshot) (agree : AgreeOnInputs f s t) :
      f.evaluate s c = f.evaluate t c := by
    simp only [Field.evaluate, agree.firstViolation?_eq]
  refine ⟨agreeing, ?_⟩
  intro values edits elsewhere
  exact agreeing _ _ elsewhere.agreeOnInputs

def repeatedPassword : Field where
  id := "again"
  label := "Repetition"
  kind := .text
  declaredGroup := none
  rules := [.required, .minLength 3, .equalTo ⟨"new", "New password"⟩]

def typedPasswords : FormValues :=
  (FormValues.setValue {} "new" "abc").setValue "again" " abc"

def editsElsewhere : List Edit :=
  [.setChecked "box" true, .apply [("note", .value "x"), ("", .state {})]]

theorem verdict_of_repeated_password :
    AgreeOnInputs repeatedPassword (typedPasswords.setChecked "again" true).snapshot
      typedPasswords.snapshot ∧
    Elsewhere repeatedPassword typedPasswords editsElsewhere ∧
    ∀ values ∈ [typedPasswords, typedPasswords.setChecked "again" true,
        fill typedPasswords editsElsewhere],
      repeatedPassword.evaluate values.snapshot .english = .error
        ⟨"again", .equalTo, "Repetition must be identical to the New password field"⟩ := by
  have verdict : repeatedPassword.evaluate typedPasswords.snapshot .english = .error
      ⟨"again", .equalTo, "Repetition must be identical to the New password field"⟩ := by
    decide +kernel
  have target : ∀ r ∈ repeatedPassword.rules, ∀ id, r.target? = some id → id = "new" := by
    simp [repeatedPassword, Rule.target?, eq_comm]
  have agree : AgreeOnInputs repeatedPassword (typedPasswords.setChecked "again" true).snapshot
      typedPasswords.snapshot := by
    refine ⟨by decide +kernel, fun _ => by decide +kernel, by decide +kernel, ?_, by decide⟩
    intro r mem id names
    rw [target r mem id names]
    decide +kernel
  have elsewhere : Elsewhere repeatedPassword typedPasswords editsElsewhere := by
    refine ⟨by decide, ?_, by decide⟩
    intro r mem id names
    rw [target r mem id names]
    decide
  obtain ⟨agreeing, unread⟩ := verdict_of_inputs repeatedPassword .english
  refine ⟨agree, elsewhere, ?_⟩
  simp only [List.forall_mem_cons, List.not_mem_nil, false_imp_iff, implies_true, and_true]
  refine ⟨verdict, ?_, ?_⟩
  · rw [agreeing _ _ agree, verdict]
  · rw [unread _ _ elsewhere, verdict]

end FormRules.Proofs.Evaluation
