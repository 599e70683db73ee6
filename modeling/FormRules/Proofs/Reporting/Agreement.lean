import FormRules.Proofs.Reporting.Pass

/-!
# The form and its fields

Evaluating a form as a whole gives the verdicts that its fields have one by one, when each is
looked up by its id. Errors that are dropped never leave the list of errors empty.
-/

namespace FormRules.Proofs.Reporting
open Evaluation Proofs.Configuration

variable {fields : List Field} {s : Snapshot} {specs : List FieldSpec} {c : Catalog}
  {display : Option DisplayOptions} {form : Form}

theorem firsts_nil_eq_nil_iff {α : Type} {key : α → String} {as : List α} :
    firsts key [] as = [] ↔ as = [] := by
  rw [firsts_eq_nil_iff, List.eq_nil_iff_forall_not_mem]
  exact forall₂_congr fun a _ => iff_false_intro List.not_mem_nil

theorem error?_eq_none_iff {v : Verdict} : v.error? = none ↔ v.isSuccess = true := by
  cases v <;> simp [Verdict.error?, Verdict.isSuccess]

theorem isValid_recordAll_iff {vs : List Verdict} :
    (Report.recordAll {} vs).isValid = true ↔ ∀ v ∈ vs, v.isSuccess = true := by
  rw [Report.isValid, List.isEmpty_iff, recordAll_eq]
  show firsts ErrorResult.fieldId [] (vs.filterMap Verdict.error?) = [] ↔ _
  rw [firsts_nil_eq_nil_iff, List.filterMap_eq_nil_iff]
  exact forall₂_congr fun v _ => error?_eq_none_iff

/-- A report has all successes among some verdicts and, for each id that an error is reported
against, the first such error. -/
structure Agrees (report : Report) (vs : List Verdict) : Prop where
  successes : report.successes = vs.filterMap success?
  errors : report.errors = firsts ErrorResult.fieldId [] (vs.filterMap Verdict.error?)
  isValid : report.isValid = true ↔ ∀ v ∈ vs, v.isSuccess = true

def OneByOne (form : Form) (s : Snapshot) (vs : List Verdict) : Prop :=
  (form.fields.map fun f => form.evaluateField? f.id s) = vs.map some

theorem oneByOne_of_build (built : Form.build specs c display = .ok form) (s : Snapshot) :
    OneByOne form s (form.fields.map fun f => f.evaluate s c) := by
  rw [OneByOne, List.map_map]
  exact List.map_congr_left fun f mem => evaluateField?_of_mem built mem s

theorem agrees_of_build (built : Form.build specs c display = .ok form) {s : Snapshot}
    {vs : List Verdict} (each : OneByOne form s vs) : Agrees (form.evaluate s) vs := by
  have same : vs = form.fields.map fun f => f.evaluate s c :=
    List.map_injective_iff.2 (fun _ _ => Option.some.inj)
      (each.symm.trans (oneByOne_of_build built s))
  have pass : form.evaluate s = evaluateForm form.fields s c := by
    rw [Form.evaluate, catalog_of_build built]
  rw [pass, same]
  refine ⟨?_, ?_, isValid_recordAll_iff⟩
  · rw [successes_eq (distinct_ids_of_build built), List.filterMap_map]
    exact filterMap_success?.symm
  · rw [errors_evaluateForm, List.filterMap_map]
    rfl

end FormRules.Proofs.Reporting
