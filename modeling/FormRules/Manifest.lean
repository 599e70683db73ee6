import FormRules.Data.Toml
import FormRules.Form
import FormRules.Wire.Field

/-!
Manifests: a form, how it shows errors, its language file and its fields, in one file.
-/

namespace FormRules
open Wire

structure Manifest where
  display : DisplayOptions
  /-- The language file, relative to the manifest. -/
  messages : Option String
  fields : List FieldSpec
deriving DecidableEq, Repr

namespace Manifest

structure FormSection where
  id : String
  submitButton : String
  messages : Option String

def FormSection.ofData? (d : Data) : Option FormSection := do
  match ← slots? [["id"], ["submit_button"], ["messages"]] d with
  | [id, submitButton, messages] =>
    some {
      id := ← mandatory text? id
      submitButton := ← withDefault "" text? submitButton
      messages := ← withDefault none (nullable? text?) messages }
  | _ => none

def optionNames : List (List String) :=
  [["error_container"], ["real_time_checking"], ["on_blur_checking"], ["input_highlights"],
    ["prevent_enter_key"], ["test_mode"]]

def optionsOfData? (d : Data) : Option DisplayOptions := do
  match ← slots? optionNames d with
  | [errorContainer, realTimeChecking, onBlurChecking, inputHighlights, preventEnterKey,
      testMode] =>
    some {
      errorContainer := ← withDefault none (nullable? text?) errorContainer
      realTimeChecking := ← withDefault false bool? realTimeChecking
      onBlurChecking := ← withDefault false bool? onBlurChecking
      inputHighlights := ← withDefault true bool? inputHighlights
      preventEnterKey := ← withDefault false bool? preventEnterKey
      testMode := ← withDefault false bool? testMode }
  | _ => none

def ofData? (d : Data) : Option Manifest := do
  match ← slots? [["form"], ["options"], ["field"]] d with
  | [form, options, fields] =>
    let form ← mandatory FormSection.ofData? form
    let options ← withDefault {} optionsOfData? options
    some {
      display := { options with formId := form.id, submitButtonId := form.submitButton }
      messages := form.messages
      fields := ← withDefault [] (list? (FieldSpec.ofData? .lenient)) fields }
  | _ => none

def ofToml? (s : String) : Option Manifest := do
  ofData? (← Data.ofToml? s)

def formId (m : Manifest) : String :=
  m.display.formId

def form (m : Manifest) (c : Catalog) : Except (List ConfigError) Form :=
  Form.build m.fields c (some m.display)

end Manifest

end FormRules
