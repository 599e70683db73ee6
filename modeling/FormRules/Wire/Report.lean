import FormRules.Report
import FormRules.Wire.Rule

/-!
Verdicts and reports as data trees.
-/

namespace FormRules
open Wire

namespace ErrorResult

def entries (e : ErrorResult) : List (String × Data) :=
  [("fieldId", .text e.fieldId), ("rule", e.rule.toData), ("message", .text e.message)]

def toData (e : ErrorResult) : Data :=
  .record e.entries

def ofData? (l : Leniency) (d : Data) : Option ErrorResult := do
  match ← slots? [["fieldId"], ["rule"], ["message"]] d with
  | [fieldId, rule, message] =>
    some {
      fieldId := ← mandatory text? fieldId
      rule := ← mandatory (RuleName.ofData? l) rule
      message := ← mandatory text? message }
  | _ => none

end ErrorResult

namespace Verdict

def successData (fieldId : String) : Data :=
  .record [("fieldId", .text fieldId)]

def successOfData? (d : Data) : Option String := do
  match ← slots? [["fieldId"]] d with
  | [fieldId] => mandatory text? fieldId
  | _ => none

def toData : Verdict → Data
  | success fieldId => .record [("status", .text "success"), ("fieldId", .text fieldId)]
  | error e => .record (("status", .text "error") :: e.entries)

def ofStatus? (status : String) (d : Data) : Option Verdict :=
  match status with
  | "success" => (successOfData? d).map success
  | "error" => (ErrorResult.ofData? .lenient d).map error
  | _ => none

/-- The status stands among the fields, or in front of them. -/
def ofData? : Data → Option Verdict
  | .record entries => do
    let status ← mandatory text? (← slot? ["status"] entries)
    ofStatus? status (.record entries)
  | .list (.text status :: items) => ofStatus? status (.list items)
  | _ => none

end Verdict

namespace Report

def toData (r : Report) : Data :=
  .record [("errors", .list (r.errors.map ErrorResult.toData)),
    ("successes", .list (r.successes.map Verdict.successData))]

def ofData? (d : Data) : Option Report := do
  match ← slots? [["errors"], ["successes"]] d with
  | [errors, successes] =>
    some {
      errors := ← mandatory (list? (ErrorResult.ofData? .strict)) errors
      successes := ← mandatory (list? Verdict.successOfData?) successes }
  | _ => none

end Report

end FormRules
