import FormRules.Proofs.Configuration.Errors
import FormRules.Proofs.Evaluation.Violation
import FormRules.Proofs.Message.Template
import FormRules.Proofs.Reporting.Records

/-!
# Messages of a built form

A form is built only if the templates of its rules can be rendered, and a violated rule supplies
what its templates may name. So every message of a built form is a template of its catalog, as it
is or filled in.
-/

namespace FormRules.Proofs.Message
open Template Evaluation Reporting Proofs.Configuration

theorem isStatic_iff {key : MessageKey} :
    key.isStatic = true ↔
      key = .rule (.pattern .password) ∨ key = .rule (.pattern .creditCard) := by
  cases key with
  | rule r =>
    cases r with
    | pattern p => cases p <;> decide
    | _ => simp [MessageKey.isStatic]
  | _ => simp [MessageKey.isStatic]

/-- The catalog has a template under the key, which names only what the key supplies unless it is
taken as it is. -/
def Renderable (c : Catalog) (key : MessageKey) : Prop :=
  ∃ template, c.template key = some template ∧
    (key.isStatic = true ∨ ∀ name ∈ placeholders template, name ∈ key.placeholders)

theorem checkTemplate_eq_nil_iff {key : MessageKey} {template : String} :
    Catalog.checkTemplate key template = [] ↔
      key.isStatic = true ∨ ∀ name ∈ placeholders template, name ∈ key.placeholders := by
  unfold Catalog.checkTemplate
  split
  · rename_i static
    simp [static]
  · rename_i filled
    simp [filled]

theorem checkRule_eq_nil_iff {c : Catalog} {field : String} {r : Rule} :
    c.checkRule field r = [] ↔ ∀ key ∈ MessageKey.ofRule r.name, Renderable c key := by
  unfold Catalog.checkRule
  rw [List.flatMap_eq_nil_iff]
  refine forall₂_congr fun key _ => ?_
  cases found : c.template key with
  | none => simp [Renderable, found]
  | some template => simp [Renderable, found, checkTemplate_eq_nil_iff]

/-- The message of a violation: the template of its key, as it is for the two keys whose message
never varies and with every placeholder replaced for the others. -/
def IsMessage (c : Catalog) (v : Violation) (message : String) : Prop :=
  ∃ template, c.template v.key = some template ∧
    if v.key = .rule (.pattern .password) ∨ v.key = .rule (.pattern .creditCard) then
      message = template
    else format template v.value? = .ok message

theorem render_isMessage {c : Catalog} {v : Violation} (renderable : Renderable c v.key)
    (supplies : ∀ name ∈ v.key.placeholders, (v.value? name).isSome = true) :
    IsMessage c v (c.render v.key v.value?) := by
  obtain ⟨template, found, ready⟩ := renderable
  refine ⟨template, found, ?_⟩
  split
  · rename_i static
    simp [Catalog.render, found, isStatic_iff.2 static]
  · rename_i varies
    rw [← isStatic_iff] at varies
    have named := ready.resolve_left varies
    obtain ⟨text, filled⟩ := (format_isOk_iff template v.value?).2
      fun name mem => supplies name (named name mem)
    simp [Catalog.render, found, varies, filled]

structure Reports (c : Catalog) (v : Violation) (e : ErrorResult) : Prop where
  fieldId : e.fieldId = v.fieldId
  rule : e.rule = v.rule
  message : IsMessage c v e.message

theorem exists_reports {specs : List FieldSpec} {c : Catalog} {display : Option DisplayOptions}
    {form : Form} (built : Form.build specs c display = .ok form) {f : Field}
    (mem : f ∈ form.fields) {s : Snapshot} {e : ErrorResult} (failed : f.evaluate s c = .error e) :
    ∃ v, f.firstViolation? s = some v ∧ Reports c v e := by
  obtain ⟨v, first, rfl⟩ := evaluate_eq_error_iff.1 failed
  obtain ⟨r, rule, violates⟩ := violates_of_firstViolation? first
  have renderable := checkRule_eq_nil_iff.1 (checkRule_eq_nil_of_build built mem rule) v.key
    violates.key_mem_ofRule
  exact ⟨v, first, rfl, rfl, render_isMessage renderable fun _ mem => violates.supplies mem⟩

theorem message_of_built_form {specs : List FieldSpec} {c : Catalog}
    {display : Option DisplayOptions} {form : Form}
    (built : Form.build specs c display = .ok form) (s : Snapshot) :
    (∀ id e, form.evaluateField? id s = some (.error e) →
      ∃ f ∈ form.fields, f.id = id ∧ ∃ v, f.firstViolation? s = some v ∧ Reports c v e) ∧
    ∀ e ∈ (form.evaluate s).errors,
      ∃ f ∈ form.fields, ∃ v, f.firstViolation? s = some v ∧ Reports c v e := by
  have catalog := catalog_of_build built
  constructor
  · intro id e evaluated
    rw [Form.evaluateField?, Option.map_eq_some_iff, catalog] at evaluated
    obtain ⟨f, found, failed⟩ := evaluated
    have mem := List.mem_of_find?_eq_some found
    have named : f.id = id := by simpa using List.find?_some found
    exact ⟨f, mem, named, exists_reports built mem failed⟩
  · intro e mem
    rw [Form.evaluate, catalog] at mem
    obtain ⟨f, fMem, failed⟩ := exists_evaluate_of_mem_errors mem
    exact ⟨f, fMem, exists_reports built fMem failed⟩

def age : FieldSpec where
  id := "age"
  label := some "Age"
  rules := "greater_than[17]"

def ageMessages : Catalog :=
  (Catalog.empty.set (.rule (.comparison .greaterThan)) "More than \x7bnumber\x7d, please").set
    .notANumber "\x7bfield\x7d is not a number"

def tenInWords : Snapshot where
  field _ := some { value := "ten" }
  group _ := []

theorem message_of_age :
    ∃ form e, Form.build [age] ageMessages none = .ok form ∧
      (form.evaluate tenInWords).errors = [e] ∧ e.message = "Age is not a number" ∧
      ∃ f ∈ form.fields, ∃ v, f.firstViolation? tenInWords = some v ∧ Reports ageMessages v e := by
  have built : Form.build [age] ageMessages none = .ok ⟨[fieldOf age], ageMessages, none⟩ :=
    build_eq_ok_iff.2 ⟨by decide +kernel, rfl⟩
  have errors : (evaluateForm [fieldOf age] tenInWords ageMessages).errors =
      [⟨"age", .comparison .greaterThan, "Age is not a number"⟩] := by
    decide +kernel
  refine ⟨_, _, built, errors, rfl, (message_of_built_form built tenInWords).2 _ ?_⟩
  rw [Form.evaluate, errors]
  exact List.mem_cons_self

end FormRules.Proofs.Message
