import FormRules.ConfigError

/-!
How a form shows its errors.
-/

namespace FormRules

inductive ErrorDisplay where
  /-- All errors in one element. -/
  | container (id : String)
  /-- Each field is checked while it is typed in. -/
  | realTime
  /-- Each field is checked when it is left. -/
  | onBlur
deriving DecidableEq, Repr

structure DisplayOptions where
  formId : String := ""
  submitButtonId : String := ""
  errorContainer : Option String := none
  realTimeChecking : Bool := false
  onBlurChecking : Bool := false
  inputHighlights : Bool := true
  preventEnterKey : Bool := false
  testMode : Bool := false
deriving DecidableEq, Repr

namespace DisplayOptions

def withDisplay (o : DisplayOptions) (d : ErrorDisplay) : DisplayOptions :=
  { o with
    errorContainer := match d with
      | .container id => some id
      | _ => none
    realTimeChecking := d == .realTime
    onBlurChecking := d == .onBlur }

/-- The id of the container, unless it is blank. -/
def container? (o : DisplayOptions) : Option String :=
  match o.errorContainer with
  | none => none
  | some id => if Text.isBlank id.toList then none else some (Text.trimmed id)

/-- The way errors are shown, if exactly one is chosen. -/
def errorDisplay? (o : DisplayOptions) : Option ErrorDisplay :=
  match o.container?, o.realTimeChecking, o.onBlurChecking with
  | some id, false, false => some (.container id)
  | none, true, false => some .realTime
  | none, false, true => some .onBlur
  | _, _, _ => none

def requireText (option : String) (value : String) : List ConfigError :=
  if Text.isBlank value.toList then [.missingOption option] else []

def check (o : DisplayOptions) : List ConfigError :=
  requireText "form_id" o.formId ++ requireText "submit_button_id" o.submitButtonId ++
    if o.errorDisplay?.isNone then [.errorDisplayMode] else []

end DisplayOptions

end FormRules
