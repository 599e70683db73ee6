import FormRules.Display
import FormRules.Wire.Record

/-!
Display options as data trees. Each name of more than one word has two spellings.
-/

namespace FormRules.DisplayOptions
open Wire

def toData (o : DisplayOptions) : Data :=
  .record [("form_id", .text o.formId), ("submit_button_id", .text o.submitButtonId),
    ("error_container", .optionalText o.errorContainer),
    ("real_time_checking", .bool o.realTimeChecking),
    ("on_blur_checking", .bool o.onBlurChecking), ("input_highlights", .bool o.inputHighlights),
    ("prevent_enter_key", .bool o.preventEnterKey), ("test_mode", .bool o.testMode)]

def fieldNames : List (List String) :=
  [["form_id", "formId"], ["submit_button_id", "submitButtonId"],
    ["error_container", "errorContainer"], ["real_time_checking", "realTimeChecking"],
    ["on_blur_checking", "onBlurChecking"], ["input_highlights", "inputHighlights"],
    ["prevent_enter_key", "preventEnterKey"], ["test_mode", "testMode"]]

def ofData? (d : Data) : Option DisplayOptions := do
  match ← slots? fieldNames d with
  | [formId, submitButtonId, errorContainer, realTimeChecking, onBlurChecking, inputHighlights,
      preventEnterKey, testMode] =>
    some {
      formId := ← withDefault "" text? formId
      submitButtonId := ← withDefault "" text? submitButtonId
      errorContainer := ← withDefault none (nullable? text?) errorContainer
      realTimeChecking := ← withDefault false bool? realTimeChecking
      onBlurChecking := ← withDefault false bool? onBlurChecking
      inputHighlights := ← withDefault true bool? inputHighlights
      preventEnterKey := ← withDefault false bool? preventEnterKey
      testMode := ← withDefault false bool? testMode }
  | _ => none

end FormRules.DisplayOptions
