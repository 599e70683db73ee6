import FormRules.Evaluation

/-!
Reports: the verdicts of one or more passes over a form. Each list keeps the first entry of a
field.
-/

namespace FormRules

structure Report where
  errors : List ErrorResult := []
  successes : List String := []
deriving DecidableEq, Repr

namespace Report

def isValid (r : Report) : Bool :=
  r.errors.isEmpty

def errorFor? (r : Report) (id : String) : Option ErrorResult :=
  r.errors.find? fun e => e.fieldId == id

def hasSuccess (r : Report) (id : String) : Bool :=
  r.successes.contains id

def record (r : Report) : Verdict → Report
  | .error e =>
    if (r.errorFor? e.fieldId).isSome then r else { r with errors := r.errors ++ [e] }
  | .success id =>
    if r.hasSuccess id then r else { r with successes := r.successes ++ [id] }

def recordAll (r : Report) (vs : List Verdict) : Report :=
  vs.foldl record r

/-- The verdicts of a report, errors first. -/
def verdicts (r : Report) : List Verdict :=
  r.errors.map .error ++ r.successes.map .success

def merge (r later : Report) : Report :=
  r.recordAll later.verdicts

end Report

def evaluateForm (fields : List Field) (s : Snapshot) (c : Catalog) : Report :=
  Report.recordAll {} (fields.map fun f => f.evaluate s c)

end FormRules
