import FormRules.Proofs.Configuration.Validity
import FormRules.Proofs.Entry.Groups
import FormRules.Proofs.Evaluation.Violation
import FormRules.Proofs.Reporting.Records
import Mathlib.Data.List.Nodup

/-!
# One pass over a form

An error is reported against the field that is evaluated or, under `required_one_of`, against the
first declared field of its group. That field comes earlier and has a verdict of its own, which
may be a success.
-/

namespace FormRules.Proofs.Reporting
open Evaluation Entry Proofs.Configuration

variable {fields : List Field} {f : Field} {s : Snapshot} {v : FormValues} {c : Catalog}
  {e : ErrorResult}

theorem filterMap_success? : (fields.filterMap fun f => success? (f.evaluate s c)) =
    (fields.filter fun f => (f.evaluate s c).isSuccess).map Field.id := by
  induction fields with
  | nil => rfl
  | cons f fields ih =>
    rw [List.filterMap_cons, List.filter_cons, ih]
    cases verdict : f.evaluate s c with
    | success id =>
      have own : id = f.id := (evaluate_eq_success_iff.1 verdict).2
      simp [success?, Verdict.isSuccess, own]
    | error e => simp [success?, Verdict.isSuccess]

theorem successes_eq (distinct : (fields.map Field.id).Nodup) :
    (evaluateForm fields s c).successes =
      (fields.filter fun f => (f.evaluate s c).isSuccess).map Field.id := by
  rw [successes_evaluateForm, filterMap_success?]
  apply firsts_eq_self
  · rw [List.map_id]
    exact distinct.sublist (List.filter_sublist.map Field.id)
  · exact fun _ _ => List.not_mem_nil

/-! ## Errors -/

def FirstReported (fields : List Field) (s : Snapshot) (c : Catalog) (e : ErrorResult) : Prop :=
  ∃ before f after, fields = before ++ f :: after ∧ f.evaluate s c = .error e ∧
    ∀ g ∈ before, ∀ e', g.evaluate s c = .error e' → e'.fieldId ≠ e.fieldId

theorem mem_errors_iff : e ∈ (evaluateForm fields s c).errors ↔ FirstReported fields s c e := by
  rw [errors_evaluateForm, mem_firsts_iff]
  constructor
  · rintro ⟨-, errors, later, split, first⟩
    obtain ⟨before, rest, rfl, rfl, cut⟩ := List.filterMap_eq_append_iff.1 split
    obtain ⟨passed, f, after, rfl, passes, failed, -⟩ := List.filterMap_eq_cons_iff.1 cut
    refine ⟨before ++ passed, f, after, by simp, error?_eq_some_iff.1 failed, ?_⟩
    intro g mem e' gFailed
    rw [← error?_eq_some_iff] at gFailed
    rcases List.mem_append.1 mem with mem | mem
    · exact first e' (List.mem_filterMap.2 ⟨g, mem, gFailed⟩)
    · rw [passes g mem] at gFailed
      cases gFailed
  · rintro ⟨before, f, after, rfl, failed, first⟩
    refine ⟨List.not_mem_nil, before.filterMap fun g => (g.evaluate s c).error?,
      after.filterMap fun g => (g.evaluate s c).error?, ?_, ?_⟩
    · simp [error?_eq_some_iff.2 failed]
    · intro e' mem
      obtain ⟨g, gMem, gFailed⟩ := List.mem_filterMap.1 mem
      exact first g gMem e' (error?_eq_some_iff.1 gFailed)

theorem fieldId_mem_errors (mem : f ∈ fields) (failed : f.evaluate s c = .error e) :
    e.fieldId ∈ (evaluateForm fields s c).errors.map ErrorResult.fieldId := by
  rw [errors_evaluateForm, mem_map_firsts]
  refine ⟨List.mem_map_of_mem (List.mem_filterMap.2 ⟨f, mem, ?_⟩), List.not_mem_nil⟩
  exact error?_eq_some_iff.2 failed

def OwnOrLeader (fields : List Field) (f : Field) (e : ErrorResult) : Prop :=
  e.fieldId = f.id ∨ e.rule = .requiredOneOf ∧ ∃ x, Leads fields x f ∧ e.fieldId = x.id

theorem ownOrLeader_of_evaluate (groups : Groups fields v) (mem : f ∈ fields)
    (failed : f.evaluate v.snapshot c = .error e) : OwnOrLeader fields f e := by
  obtain ⟨violation, first, rfl⟩ := evaluate_eq_error_iff.1 failed
  obtain ⟨r, -, violates⟩ := violates_of_firstViolation? first
  rcases violates.fieldId_eq with own | ⟨rfl, leader⟩
  · exact .inl own
  · obtain ⟨x, leads⟩ := exists_leads mem
    rw [leads.groupLeader_eq groups] at leader
    exact .inr ⟨violates.rule_eq, x, leads, leader⟩

def FailsItself (fields : List Field) (s : Snapshot) (c : Catalog) (e : ErrorResult) : Prop :=
  ∃ g ∈ fields, g.id = e.fieldId ∧ ∃ e', g.evaluate s c = .error e'

theorem errors_in_order (groups : Groups fields v) (distinct : (fields.map Field.id).Nodup)
    (fail : ∀ e ∈ (evaluateForm fields v.snapshot c).errors, FailsItself fields v.snapshot c e) :
    ((evaluateForm fields v.snapshot c).errors.map ErrorResult.fieldId).Sublist
      (fields.map Field.id) := by
  rw [errors_evaluateForm]
  apply OwnOrSeen.sublist
  rintro before f after rfl e failed
  rw [error?_eq_some_iff] at failed
  have mem : f ∈ before ++ f :: after := by simp
  rcases ownOrLeader_of_evaluate groups mem failed with own | ⟨-, x, leads, leader⟩
  · exact .inl own
  · rcases leads.eq_or_mem with rfl | earlier
    · exact .inl leader
    · -- the error of the leader is reported against the leader, and earlier
      have reported := fieldId_mem_errors mem failed
      obtain ⟨e₁, e₁Mem, same⟩ := List.mem_map.1 reported
      obtain ⟨g, gMem, gId, e', gFailed⟩ := fail e₁ e₁Mem
      have isLeader : g = x := List.inj_on_of_nodup_map distinct gMem leads.mem (by
        rw [gId, same, leader])
      subst isLeader
      refine .inr (.inr ⟨g, earlier, e', error?_eq_some_iff.2 gFailed, ?_⟩)
      rw [leader]
      rcases ownOrLeader_of_evaluate groups gMem gFailed with own | ⟨-, y, leads', leader'⟩
      · exact own
      · rw [leader', Option.some.inj (leads'.symm.trans leads.self)]

/-! ## One verdict for each field -/

structure Consistent (fields : List Field) (report : Report) : Prop where
  disjoint : ∀ id ∈ report.successes, id ∉ report.errors.map ErrorResult.fieldId
  successes : report.successes.Sublist (fields.map Field.id)
  errors : (report.errors.map ErrorResult.fieldId).Sublist (fields.map Field.id)

theorem consistent_iff (groups : Groups fields v) (distinct : (fields.map Field.id).Nodup) :
    Consistent fields (evaluateForm fields v.snapshot c) ↔
      ∀ e ∈ (evaluateForm fields v.snapshot c).errors, FailsItself fields v.snapshot c e := by
  constructor
  · intro consistent e mem
    have declared : e.fieldId ∈ fields.map Field.id :=
      consistent.errors.subset (List.mem_map_of_mem mem)
    obtain ⟨g, gMem, gId⟩ := List.mem_map.1 declared
    refine ⟨g, gMem, gId, ?_⟩
    cases verdict : g.evaluate v.snapshot c with
    | error e' => exact ⟨e', rfl⟩
    | success id =>
      have passes : g.id ∈ (evaluateForm fields v.snapshot c).successes := by
        rw [successes_eq distinct]
        exact List.mem_map_of_mem (List.mem_filter.2 ⟨gMem, by rw [verdict]; rfl⟩)
      exact absurd (gId ▸ List.mem_map_of_mem mem) (consistent.disjoint g.id passes)
  · intro fail
    refine ⟨?_, ?_, errors_in_order groups distinct fail⟩
    · intro id passes reported
      rw [successes_eq distinct] at passes
      obtain ⟨f, fMem, rfl⟩ := List.mem_map.1 passes
      rw [List.mem_filter] at fMem
      obtain ⟨e, eMem, same⟩ := List.mem_map.1 reported
      obtain ⟨g, gMem, gId, e', gFailed⟩ := fail e eMem
      have isSame : g = f := List.inj_on_of_nodup_map distinct gMem fMem.1 (gId.trans same)
      rw [← isSame, gFailed] at fMem
      cases fMem.2
    · rw [successes_eq distinct]
      exact List.filter_sublist.map Field.id

/-- Where a field requires its group to be checked, the leader of the group is required as well,
unless it is of a kind that has no message for that. -/
def LeadersRequired (fields : List Field) : Prop :=
  ∀ f ∈ fields, .requiredOneOf ∈ f.rules → ∀ x, Leads fields x f → x.kind.isCheckable = true →
    .required ∈ x.rules ∨ .requiredOneOf ∈ x.rules

theorem exists_error_of_leader {x : Field} (groups : Groups fields v) (leads : Leads fields x x)
    {key : MessageKey} (found : Field.groupKey? x.kind = some key)
    (unset : x.groupIsChecked v.snapshot = false)
    (required : .required ∈ x.rules ∨ .requiredOneOf ∈ x.rules) :
    ∃ e, x.evaluate v.snapshot c = .error e := by
  rcases required with alone | together
  · have unchecked := groups.checked_eq_false leads.mem unset
    exact exists_error_of_violates alone (.unchecked (isCheckable_of_groupKey? found) unchecked)
  · have leader : Field.groupKey? (x.groupLeader v.snapshot).kind = some key := by
      rw [leads.groupLeader_eq groups]
      exact found
    exact exists_error_of_violates together (.group leader unset)

theorem failsItself_of_leadersRequired (groups : Groups fields v)
    (required : LeadersRequired fields)
    (mem : e ∈ (evaluateForm fields v.snapshot c).errors) : FailsItself fields v.snapshot c e := by
  obtain ⟨f, fMem, failed⟩ := exists_evaluate_of_mem_errors mem
  obtain ⟨violation, first, rfl⟩ := evaluate_eq_error_iff.1 failed
  obtain ⟨r, rule, violates⟩ := violates_of_firstViolation? first
  by_cases own : violation.fieldId = f.id
  · exact ⟨f, fMem, own.symm, _, failed⟩
  · cases violates with
    | group found unset =>
      obtain ⟨x, leads⟩ := exists_leads fMem
      have leader := leads.groupLeader_eq groups
      rw [leader] at found
      rw [← leads.groupIsChecked_eq groups fMem] at unset
      have needed := required f fMem rule x leads (isCheckable_of_groupKey? found)
      refine ⟨x, leads.mem, ?_, exists_error_of_leader groups leads.self found unset needed⟩
      exact (congrArg GroupMember.id leader).symm
    | _ => exact absurd rfl own

structure OnePass (fields : List Field) (s : Snapshot) (c : Catalog) (report : Report) : Prop where
  successes : report.successes =
    (fields.filter fun f => (f.evaluate s c).isSuccess).map Field.id
  errors : report.errors.Sublist (fields.filterMap fun f => (f.evaluate s c).error?)
  ids : (report.errors.map ErrorResult.fieldId).Nodup
  first : ∀ e, e ∈ report.errors ↔ FirstReported fields s c e
  against : ∀ f ∈ fields, ∀ e, f.evaluate s c = .error e → OwnOrLeader fields f e

theorem onePass (groups : Groups fields v) (distinct : (fields.map Field.id).Nodup) :
    OnePass fields v.snapshot c (evaluateForm fields v.snapshot c) where
  successes := successes_eq distinct
  errors := errors_evaluateForm ▸ firsts_sublist
  ids := errors_evaluateForm ▸ nodup_map_firsts
  first _ := mem_errors_iff
  against _ mem _ failed := ownOrLeader_of_evaluate groups mem failed

/-- However a form is filled in, a pass gives no field two verdicts and keeps both lists in order of
declaration exactly if each field that an error is reported against fails as well. It does so
if the leaders of the groups that have to be checked are required. -/
theorem report_of_reachable {specs : List FieldSpec} {display : Option DisplayOptions}
    {form : Form} (built : Form.build specs c display = .ok form) (reached : Reachable form v) :
    OnePass form.fields v.snapshot c (form.evaluate v.snapshot) ∧
    (Consistent form.fields (form.evaluate v.snapshot) ↔
      ∀ e ∈ (form.evaluate v.snapshot).errors, FailsItself form.fields v.snapshot c e) ∧
    (LeadersRequired form.fields → Consistent form.fields (form.evaluate v.snapshot)) := by
  have distinct := distinct_ids_of_build built
  have groups := reached.groups distinct
  have pass : form.evaluate v.snapshot = evaluateForm form.fields v.snapshot c := by
    rw [Form.evaluate, catalog_of_build built]
  rw [pass]
  refine ⟨onePass groups distinct, consistent_iff groups distinct, fun required => ?_⟩
  rw [consistent_iff groups distinct]
  exact fun e mem => failsItself_of_leadersRequired groups required mem

def choice (rules : String) : List FieldSpec :=
  [{ id := "x", kind := .radio, group := some "g", rules := rules },
    { id := "c", rules := "required" },
    { id := "y", kind := .radio, group := some "g", rules := "required_one_of" }]

def choiceMessages : Catalog :=
  ((Catalog.empty.set (.rule .required) "fill in").set .requiredCheckbox "check one").set
    .requiredRadio "choose one"

def choiceForm (rules : String) : Form where
  fields := (choice rules).map fieldOf
  catalog := choiceMessages
  display := none

theorem consistent_of_required_leader :
    ∃ form v, Form.build (choice "required_one_of") choiceMessages none = .ok form ∧
      Reachable form v ∧ LeadersRequired form.fields ∧
      (form.evaluate v.snapshot).errors.map ErrorResult.fieldId = ["x"] ∧
      (form.evaluate v.snapshot).successes = ["c"] ∧
      OnePass form.fields v.snapshot choiceMessages (form.evaluate v.snapshot) ∧
      Consistent form.fields (form.evaluate v.snapshot) := by
  have built : Form.build (choice "required_one_of") choiceMessages none =
      .ok (choiceForm "required_one_of") :=
    build_eq_ok_iff.2 ⟨by decide +kernel, rfl⟩
  have reached : Reachable (choiceForm "required_one_of")
      ((choiceForm "required_one_of").values.setValue "c" "tea") :=
    .setValue "c" "tea" .untouched
  have buttons : ∀ x ∈ (choiceForm "required_one_of").fields, x.kind.isCheckable = true →
      .required ∈ x.rules ∨ .requiredOneOf ∈ x.rules := by
    decide +kernel
  have required : LeadersRequired (choiceForm "required_one_of").fields :=
    fun _ _ _ x leads checkable => buttons x leads.mem checkable
  obtain ⟨pass, -, consistent⟩ := report_of_reachable built reached
  exact ⟨_, _, built, reached, required, by decide +kernel, by decide +kernel, pass,
    consistent required⟩

/-- If the first button has no rules, then it passes and gets the error of the second one, behind
the error of the text field. -/
theorem leader_with_two_verdicts :
    Form.build (choice "") choiceMessages none = .ok (choiceForm "") ∧
    Reachable (choiceForm "") (choiceForm "").values ∧
    ((choiceForm "").evaluate (choiceForm "").values.snapshot).successes = ["x"] ∧
    ((choiceForm "").evaluate (choiceForm "").values.snapshot).errors.map ErrorResult.fieldId =
      ["c", "x"] ∧
    ¬Consistent (choiceForm "").fields
      ((choiceForm "").evaluate (choiceForm "").values.snapshot) := by
  have successes : ((choiceForm "").evaluate (choiceForm "").values.snapshot).successes =
      ["x"] := by
    decide +kernel
  have errors : ((choiceForm "").evaluate (choiceForm "").values.snapshot).errors.map
      ErrorResult.fieldId = ["c", "x"] := by
    decide +kernel
  refine ⟨build_eq_ok_iff.2 ⟨by decide +kernel, rfl⟩, .untouched, successes, errors, ?_⟩
  intro consistent
  have disjoint := consistent.disjoint "x"
  rw [successes, errors] at disjoint
  exact disjoint (by decide) (by decide)

end FormRules.Proofs.Reporting
