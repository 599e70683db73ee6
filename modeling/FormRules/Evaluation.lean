import FormRules.Message.Catalog
import FormRules.Number.Decimal
import FormRules.Snapshot

/-!
Evaluating the rules of a field: the first rule that is violated decides.

`required` looks at the checked flag of checkable fields and at the trimmed value of others;
`required_one_of` looks at the group. All other rules pass over blank values. Dates and comparisons
of two fields take the value as it is, the rest take it trimmed.
-/

namespace FormRules

structure ErrorResult where
  fieldId : String
  rule : RuleName
  message : String
deriving DecidableEq, Repr

inductive Verdict where
  | success (fieldId : String)
  | error (e : ErrorResult)
deriving DecidableEq, Repr

namespace Verdict

def isSuccess : Verdict → Bool
  | success _ => true
  | error _ => false

def fieldId : Verdict → String
  | success id => id
  | error e => e.fieldId

def error? : Verdict → Option ErrorResult
  | success _ => none
  | error e => some e

end Verdict

structure Violation where
  rule : RuleName
  key : MessageKey
  fieldId : String
  values : List (String × String)
deriving DecidableEq, Repr

namespace Violation

def value? (v : Violation) (name : String) : Option String :=
  v.values.lookup name

def result (v : Violation) (c : Catalog) : ErrorResult where
  fieldId := v.fieldId
  rule := v.rule
  message := c.render v.key v.value?

end Violation

namespace Comparison

def holds : Comparison → Binary64 → Binary64 → Bool
  | greaterThan, x, y => y < x
  | greaterThanEqualTo, x, y => y ≤ x
  | lessThan, x, y => x < y
  | lessThanEqualTo, x, y => x ≤ y

end Comparison

namespace Rule

/-- What the message of a violated rule can name beside the field. -/
def messageValues : Rule → List (String × String)
  | minLength n => [("min", toString n)]
  | maxLength n => [("max", toString n)]
  | exactLength n => [("exact", toString n)]
  | rangeLength min max => [("min", toString min), ("max", toString max)]
  | comparison _ t => [("number", t.text)]
  | inList items => [("values", ", ".intercalate items)]
  | equalTo r => [("target", r.label)]
  | differentFrom r => [("target", r.label)]
  | date f => [("format", f.layout)]
  | _ => []

def violation (r : Rule) (f : Field) : Violation where
  rule := r.name
  key := .rule r.name
  fieldId := f.id
  values := ("field", f.label) :: r.messageValues

def number? (value : String) : Option Binary64 :=
  if Pattern.numeric.accepts value then (Decimal.ofChars? value.toList).map Decimal.toBinary64
  else none

/-- Whether a filled-in field obeys a rule that is neither about presence nor about numbers. -/
def holds (s : Snapshot) (raw value : String) : Rule → Bool
  | minLength n => n ≤ value.length
  | maxLength n => value.length ≤ n
  | exactLength n => value.length == n
  | rangeLength min max => min ≤ value.length && value.length ≤ max
  | inList items => items.contains value
  | equalTo r => raw == ((s.field r.target).getD {}).value
  | differentFrom r => raw != ((s.field r.target).getD {}).value
  | date f => f.accepts raw
  | pattern p => p.accepts value
  | _ => true

end Rule

namespace Field

def notANumber (f : Field) (c : Comparison) : Violation where
  rule := .comparison c
  key := .notANumber
  fieldId := f.id
  values := [("field", f.label)]

/-- The member that speaks for the field's group: the first one, or the field if there is none. -/
def groupLeader (f : Field) (s : Snapshot) : GroupMember :=
  match s.group f.group with
  | first :: _ => first
  | [] => ⟨f.id, f.label, f.kind, ((s.field f.id).getD {}).checked⟩

def groupIsChecked (f : Field) (s : Snapshot) : Bool :=
  match s.group f.group with
  | [] => ((s.field f.id).getD {}).checked
  | members => members.any GroupMember.checked

/-- The message of an unchecked group, if its leader is of a kind that can be checked. -/
def groupKey? : FieldKind → Option MessageKey
  | .checkbox => some .requiredCheckbox
  | .radio => some .requiredRadio
  | .text => none
  | .select => none

def groupViolation? (f : Field) (s : Snapshot) : Option Violation :=
  let leader := f.groupLeader s
  match groupKey? leader.kind with
  | none => none
  | some key =>
    if f.groupIsChecked s then none
    else some ⟨.requiredOneOf, key, leader.id, [("field", leader.label)]⟩

def violation? (f : Field) (s : Snapshot) (r : Rule) : Option Violation :=
  let state := (s.field f.id).getD {}
  let value := Text.trimmed state.value
  match r with
  | .required =>
    if f.kind.isCheckable then if state.checked then none else some (r.violation f)
    else if value.isEmpty then some (r.violation f)
    else none
  | .requiredOneOf => f.groupViolation? s
  | .comparison c t =>
    if value.isEmpty then none
    else
      match Rule.number? value with
      | none => some (f.notANumber c)
      | some x => if c.holds x t.value then none else some (r.violation f)
  | r =>
    if value.isEmpty || r.holds s state.value value then none else some (r.violation f)

def firstViolation? (f : Field) (s : Snapshot) : Option Violation :=
  f.rules.findSome? (f.violation? s)

def evaluate (f : Field) (s : Snapshot) (c : Catalog) : Verdict :=
  match f.firstViolation? s with
  | none => .success f.id
  | some v => .error (v.result c)

end Field

end FormRules
