import FormRules.Command.Run
import FormRules.Proofs.Reporting.Agreement

/-!
# Evaluating from the command line

On files that can be read, the command evaluates the form the manifest describes after the
recorded values are entered. It succeeds on the form exactly if it succeeds on every field, whatever
notation the manifest is in.
-/

namespace FormRules.Proofs.Command
open FormRules.Command Reporting Evaluation Proofs.Configuration

variable {files : String → Option String} {manifest? : String → Option Manifest}
  {path valuesPath : String} {manifest : Manifest} {c : Catalog} {form : Form}
  {inputs : List (String × FieldInput)}

structure Loads (files : String → Option String) (manifest? : String → Option Manifest)
    (path valuesPath : String) (manifest : Manifest) (c : Catalog)
    (inputs : List (String × FieldInput)) : Prop where
  described : Id.run (loadManifest files manifest? path) = .ok manifest
  messages : Id.run (loadCatalog files path manifest) = .ok c
  values : Id.run (loadValues files valuesPath) = .ok inputs

theorem runEval_eq (loads : Loads files manifest? path valuesPath manifest c inputs)
    (built : manifest.form c = .ok form) (field : Option String) :
    Id.run (runEval files manifest? path valuesPath field) =
      evalInputs path manifest form field inputs := by
  simp only [runEval, Id.run_bind, Id.run_pure, loads.described, loads.messages, loads.values,
    built]

theorem evalForm_error_eq_none_iff {v : FormValues} :
    (evalForm manifest form v).error = none ↔ (form.evaluate v.snapshot).isValid = true := by
  unfold evalForm
  cases valid : (form.evaluate v.snapshot).isValid <;> simp [valid]

theorem evalField_error_eq_none_iff {v : FormValues} {id : String} :
    (evalField path form v id).error = none ↔
      ∃ name, form.evaluateField? id v.snapshot = some (.success name) := by
  unfold evalField
  cases found : form.evaluateField? id v.snapshot with
  | none => simp
  | some verdict => cases verdict <;> simp

theorem evalField_of_mem {specs : List FieldSpec} {display : Option DisplayOptions}
    (built : Form.build specs c display = .ok form) {f : Field} (mem : f ∈ form.fields)
    {v : FormValues} :
    (evalField path form v f.id).error = none ↔ (f.evaluate v.snapshot c).isSuccess = true := by
  rw [evalField_error_eq_none_iff, evaluateField?_of_mem built mem]
  cases f.evaluate v.snapshot c <;> simp [Verdict.isSuccess]

theorem form_agrees_with_fields {specs : List FieldSpec} {display : Option DisplayOptions}
    (built : Form.build specs c display = .ok form) :
    (∀ s, ∃ vs, OneByOne form s vs ∧ Agrees (form.evaluate s) vs) ∧
    ∀ files manifest? path valuesPath manifest inputs,
      Loads files manifest? path valuesPath manifest c inputs → manifest.form c = .ok form →
      ((Id.run (runEval files manifest? path valuesPath none)).error = none ↔
        ∀ spec ∈ manifest.fields,
          (Id.run (runEval files manifest? path valuesPath (some spec.id))).error = none) := by
  have each := oneByOne_of_build built
  refine ⟨fun s => ⟨_, each s, agrees_of_build built (each s)⟩, ?_⟩
  intro files manifest? path valuesPath manifest inputs loads described
  simp only [runEval_eq loads described, evalInputs]
  have agrees := agrees_of_build built (each (form.values.apply inputs).snapshot)
  rw [evalForm_error_eq_none_iff, agrees.isValid, List.forall_mem_map]
  have ids := ids_of_build described
  have declared (P : String → Prop) :
      (∀ spec ∈ manifest.fields, P spec.id) ↔ ∀ f ∈ form.fields, P f.id := by
    rw [← List.forall_mem_map (f := FieldSpec.id), ← List.forall_mem_map (f := Field.id), ids]
  rw [declared fun id => (evalField path form (form.values.apply inputs) id).error = none]
  exact forall₂_congr fun f mem => (evalField_of_mem built mem).symm

def teaFiles : String → Option String
  | "form" => some ("[form]\nid=\"f\"\nsubmit_button=\"b\"\n[options]\nerror_container=\"e\"\n" ++
      "[[field]]\nid=\"tea\"\nrules=\"required\"\n[[field]]\nid=\"milk\"")
  | "tea" => some "\x7b\"tea\": \"green\"\x7d"
  | "milk" => some "\x7b\"milk\": \"a lot\"\x7d"
  | _ => none

def teaManifest : Manifest where
  display := { formId := "f", submitButtonId := "b", errorContainer := some "e" }
  messages := none
  fields := [{ id := "tea", rules := "required" }, { id := "milk" }]

def teaForm : Form where
  fields := teaManifest.fields.map fieldOf
  catalog := .english
  display := some teaManifest.display

theorem tea_decides :
    Loads teaFiles Manifest.ofToml? "form" "tea" teaManifest .english [("tea", .value "green")] ∧
    Loads teaFiles Manifest.ofToml? "form" "milk" teaManifest .english
      [("milk", .value "a lot")] ∧
    teaManifest.form .english = .ok teaForm ∧
    (∃ vs, OneByOne teaForm teaForm.values.snapshot vs ∧
      Agrees (teaForm.evaluate teaForm.values.snapshot) vs) ∧
    (Id.run (runEval teaFiles Manifest.ofToml? "form" "tea" none)).error = none ∧
    (Id.run (runEval teaFiles Manifest.ofToml? "form" "milk" none)).error ≠ none := by
  have described : Id.run (loadManifest teaFiles Manifest.ofToml? "form") = .ok teaManifest := by
    decide +kernel
  have tea : Loads teaFiles Manifest.ofToml? "form" "tea" teaManifest .english
      [("tea", .value "green")] :=
    ⟨described, rfl, by decide +kernel⟩
  have milk : Loads teaFiles Manifest.ofToml? "form" "milk" teaManifest .english
      [("milk", .value "a lot")] :=
    ⟨described, rfl, by decide +kernel⟩
  have built : teaManifest.form .english = .ok teaForm :=
    build_eq_ok_iff.2 ⟨by decide +kernel, rfl⟩
  obtain ⟨pass, command⟩ := form_agrees_with_fields built
  refine ⟨tea, milk, built, pass _, ?_, ?_⟩
  · rw [command _ _ _ _ _ _ tea built]
    simp only [runEval_eq tea built]
    decide +kernel
  · rw [ne_eq, command _ _ _ _ _ _ milk built]
    simp only [runEval_eq milk built]
    decide +kernel

end FormRules.Proofs.Command
