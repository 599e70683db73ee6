import FormRules.Display
import FormRules.Report

/-!
Forms: fields whose configuration has been checked as a whole, and a catalog with every message
they may need.
-/

namespace FormRules

structure Form where
  fields : List Field
  catalog : Catalog
  display : Option DisplayOptions

namespace Form

/-- Blank ids, and ids that occur before. -/
def idErrors : (seen : List String) → List FieldSpec → List ConfigError
  | _, [] => []
  | seen, spec :: specs =>
    if Text.isBlank spec.id.toList then .emptyFieldId :: idErrors seen specs
    else if seen.contains spec.id then .duplicateField spec.id :: idErrors seen specs
    else idErrors (spec.id :: seen) specs

def declares (specs : List FieldSpec) (id : String) : Bool :=
  specs.any fun spec => spec.id == id

/-- The errors of a field; its messages are checked only if its rules are all right. -/
def fieldErrors (c : Catalog) : Except (List ConfigError) Field → List ConfigError
  | .error errors => errors
  | .ok field => field.rules.flatMap (c.checkRule field.id)

def readFields (specs : List FieldSpec) : List (Except (List ConfigError) Field) :=
  specs.map (Field.ofSpec (declares specs))

/-- All that is wrong with a configuration, each error once. -/
def configErrors (specs : List FieldSpec) (c : Catalog) (display : Option DisplayOptions) :
    List ConfigError :=
  ((match display with
    | none => []
    | some options => options.check) ++
    idErrors [] specs ++
    (readFields specs).flatMap (fieldErrors c)).eraseDups

def build (specs : List FieldSpec) (c : Catalog) (display : Option DisplayOptions) :
    Except (List ConfigError) Form :=
  let errors := configErrors specs c display
  if errors.isEmpty then .ok ⟨valuesOf (readFields specs), c, display⟩ else .error errors

def field? (form : Form) (id : String) : Option Field :=
  form.fields.find? fun f => f.id == id

def evaluateField? (form : Form) (id : String) (s : Snapshot) : Option Verdict :=
  (form.field? id).map fun f => f.evaluate s form.catalog

def evaluate (form : Form) (s : Snapshot) : Report :=
  evaluateForm form.fields s form.catalog

def values (form : Form) : FormValues :=
  .forFields form.fields

end Form

end FormRules
