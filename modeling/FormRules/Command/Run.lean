import FormRules.Command.Arguments
import FormRules.Command.Path
import FormRules.Manifest
import FormRules.Message.Defaults
import FormRules.Text.Quoted
import FormRules.Wire.Catalog
import FormRules.Wire.Snapshot

/-!
What the commands do: check a manifest, evaluate recorded values, list the rules.

A command reads files through a function it is given and says what to print. What a manifest file
says is up to another such function.
-/

namespace FormRules

structure Outcome where
  lines : List String := []
  error : Option String := none
deriving DecidableEq, Repr

namespace Outcome

def exitCode (o : Outcome) : Nat :=
  if o.error.isSome then 1 else 0

def output (o : Outcome) : String :=
  String.join (o.lines.map (· ++ "\n"))

end Outcome

namespace Command

variable {m : Type → Type} [Monad m]

/-! ## Files -/

def readFailure (kind path : String) : String :=
  "Failed to read " ++ kind ++ ": " ++ Text.quoted path

def parseFailure (kind path : String) : String :=
  "Failed to parse " ++ kind ++ ": " ++ Text.quoted path

def load {α : Type} (read : String → m (Option String)) (kind path : String)
    (parse : String → Option α) : m (Except String α) := do
  match ← read path with
  | none => return .error (readFailure kind path)
  | some content =>
    match parse content with
    | none => return .error (parseFailure kind path)
    | some a => return .ok a

def loadManifest (read : String → m (Option String)) (manifest? : String → Option Manifest)
    (path : String) : m (Except String Manifest) :=
  load read "manifest" path manifest?

/-- The language file of a manifest, or the English messages if it has none. -/
def loadCatalog (read : String → m (Option String)) (path : String) (manifest : Manifest) :
    m (Except String Catalog) :=
  match manifest.messages with
  | none => return .ok .english
  | some file => load read "message file" (Path.join (Path.parent path) file) Catalog.ofJson?

def valuesOfJson? (s : String) : Option (List (String × FieldInput)) := do
  FieldInput.listOfData? (← Data.ofJson? s)

def loadValues (read : String → m (Option String)) (path : String) :
    m (Except String (List (String × FieldInput))) :=
  load read "values file" path valuesOfJson?

/-! ## Lines -/

def successLine (text : String) : String :=
  "  ✓ " ++ text

def failureLine (text : String) : String :=
  "  ✗ " ++ text

def verdictLine : Verdict → String
  | .success id => successLine id
  | .error e => failureLine (e.fieldId ++ " [" ++ e.rule.name ++ "] " ++ e.message)

def configErrorLines (errors : List ConfigError) : List String :=
  errors.map (fun e => failureLine e.message) ++ [""]

def configFailure (path : String) (errors : List ConfigError) : String :=
  path ++ " has " ++ toString errors.length ++ " configuration error(s)"

/-! ## Checking a manifest -/

def fieldLine (f : Field) : String :=
  successLine (f.id ++ " " ++ "|".intercalate (f.rules.map Rule.text))

def checkLines (manifest : Manifest) : List String :=
  ["Checking form manifest...", "", "Form: " ++ manifest.formId, ""]

def checkForm (path : String) (manifest : Manifest) (c : Catalog) : Outcome :=
  match manifest.form c with
  | .error errors =>
    ⟨checkLines manifest ++ configErrorLines errors, some (configFailure path errors)⟩
  | .ok form =>
    ⟨checkLines manifest ++ form.fields.map fieldLine ++
      ["", toString form.fields.length ++ " field(s) ready"], none⟩

def runCheck (read : String → m (Option String)) (manifest? : String → Option Manifest)
    (path : String) : m Outcome := do
  match ← loadManifest read manifest? path with
  | .error e => return { error := some e }
  | .ok manifest =>
    match ← loadCatalog read path manifest with
    | .error e => return ⟨checkLines manifest, some e⟩
    | .ok c => return checkForm path manifest c

/-! ## Evaluating recorded values -/

def evalField (path : String) (form : Form) (v : FormValues) (id : String) : Outcome :=
  match form.evaluateField? id v.snapshot with
  | none => { error := some ("Field " ++ Text.quoted id ++ " is not declared in " ++ path) }
  | some (.success id) => { lines := [verdictLine (.success id)] }
  | some (.error e) =>
    ⟨[verdictLine (.error e)], some (e.fieldId ++ " failed " ++ e.rule.name)⟩

def reportLines (r : Report) : List String :=
  r.successes.map (fun id => verdictLine (.success id)) ++
    r.errors.map (fun e => verdictLine (.error e)) ++
    ["", if r.isValid then "Form is valid" else toString r.errors.length ++ " field(s) failed"]

def evalForm (manifest : Manifest) (form : Form) (v : FormValues) : Outcome :=
  let r := form.evaluate v.snapshot
  ⟨reportLines r,
    if r.isValid then none else some ("form " ++ manifest.formId ++ " would not submit")⟩

def evalInputs (path : String) (manifest : Manifest) (form : Form) (field : Option String)
    (inputs : List (String × FieldInput)) : Outcome :=
  let v := form.values.apply inputs
  match field with
  | some id => evalField path form v id
  | none => evalForm manifest form v

def runEval (read : String → m (Option String)) (manifest? : String → Option Manifest)
    (path valuesPath : String) (field : Option String) : m Outcome := do
  match ← loadManifest read manifest? path with
  | .error e => return { error := some e }
  | .ok manifest =>
    match ← loadCatalog read path manifest with
    | .error e => return { error := some e }
    | .ok c =>
      match manifest.form c with
      | .error errors => return ⟨configErrorLines errors, some (configFailure path errors)⟩
      | .ok form =>
        match ← loadValues read valuesPath with
        | .error e => return { error := some e }
        | .ok inputs => return evalInputs path manifest form field inputs

/-! ## Listing the rules -/

def paramHint : RuleName → String
  | .minLength => "n"
  | .maxLength => "n"
  | .exactLength => "n"
  | .rangeLength => "min,max"
  | .comparison _ => "number"
  | .inList => "a,b,..."
  | .equalTo => "field_id,Field label"
  | .differentFrom => "field_id,Field label"
  | .date => "ddmmyyyy|yyyymmdd,/|-|."
  | _ => ""

def ruleHint (r : RuleName) : String :=
  if r.takesParam then r.name ++ "[" ++ paramHint r ++ "]" else r.name

/-- The first English message of a rule. -/
def ruleMessage (r : RuleName) : String :=
  ((MessageKey.ofRule r).findSome? Catalog.english.template).getD ""

def padRight (width : Nat) (s : String) : String :=
  s ++ String.ofList (List.replicate (width - s.length) ' ')

def ruleLine (r : RuleName) : String :=
  "  " ++ padRight 36 (ruleHint r) ++ " " ++ ruleMessage r

def rulesOutcome : Outcome where
  lines := ["Supported rules", ""] ++ RuleName.all.map ruleLine ++
    ["", toString RuleName.all.length ++
      " rules. Combine them with |, e.g. required|min_length[5]"]

/-! ## Commands -/

def usage : List String :=
  ["Usage: rusty-rules check <MANIFEST>",
    "       rusty-rules eval [--field <FIELD>] <MANIFEST> <VALUES>",
    "       rusty-rules rules",
    "       rusty-rules --version"]

def run (read : String → m (Option String)) : Command → m Outcome
  | check manifest => runCheck read Manifest.ofToml? manifest
  | eval manifest values field => runEval read Manifest.ofToml? manifest values field
  | rules => return rulesOutcome
  | version => return { lines := ["rusty-rules 0.1.0"] }
  | help => return { lines := usage }

end Command

end FormRules
