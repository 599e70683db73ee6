import FormRules.Rule.Basic
import FormRules.Wire.Record

/-!
Rules as data trees.
-/

namespace FormRules
open Wire

namespace Pattern

def toData (p : Pattern) : Data :=
  .text p.name

def ofData? (l : Leniency) (d : Data) : Option Pattern := do
  ofName? (← name? l d)

end Pattern

namespace RuleName

def toData (r : RuleName) : Data :=
  .text r.name

def ofData? (l : Leniency) (d : Data) : Option RuleName := do
  ofName? (← name? l d)

end RuleName

namespace RuleParam

def toData : RuleParam → Data
  | none => .record [("shape", .text "none")]
  | scalar value => .record [("shape", .text "scalar"), ("value", .text value)]
  | pair first second => .record [("shape", .text "pair"), ("value", Data.textList [first, second])]
  | list items => .record [("shape", .text "list"), ("value", Data.textList items)]

def ofData? (d : Data) : Option RuleParam := do
  let shape ← tagged? "shape" "value" d
  match shape.tag with
  | "none" => (nothing? shape.content).map fun _ => none
  | "scalar" => (mandatory text? shape.content).map scalar
  | "pair" => (mandatory pair? shape.content).map fun (a, b) => pair a b
  | "list" => (mandatory (list? text?) shape.content).map list
  | _ => Option.none

end RuleParam

namespace DateFormat

def toData (f : DateFormat) : Data :=
  .record [("order", .text f.order.name), ("separator", .text f.separator.name)]

def ofData? (l : Leniency) (d : Data) : Option DateFormat := do
  match ← slots? [["order"], ["separator"]] d with
  | [order, separator] =>
    let order ← DateOrder.ofName? (← mandatory (name? l) order)
    let separator ← DateSeparator.ofName? (← mandatory (name? l) separator)
    some ⟨order, separator⟩
  | _ => none

end DateFormat

namespace Threshold

def toData (t : Threshold) : Data :=
  .record [("value", .number (.real t.value)), ("text", .text t.text)]

def ofData? (d : Data) : Option Threshold := do
  match ← slots? [["value"], ["text"]] d with
  | [value, text] => some ⟨← mandatory double? value, ← mandatory text? text⟩
  | _ => none

end Threshold

namespace FieldRef

def toData (r : FieldRef) : Data :=
  .record [("target", .text r.target), ("label", .text r.label)]

def ofData? (d : Data) : Option FieldRef := do
  match ← slots? [["target"], ["label"]] d with
  | [target, label] => some ⟨← mandatory text? target, ← mandatory text? label⟩
  | _ => none

end FieldRef

namespace Rule

/-- Two bounds by their names, not as a list. -/
def lengthRangeOfData? : Data → Option Rule
  | .record entries => do
    let min ← mandatory natural? (← slot? ["min"] entries)
    let max ← mandatory natural? (← slot? ["max"] entries)
    some (.rangeLength min max)
  | _ => none

/-- The tag of a rule; all patterns have one tag. -/
def tag : Rule → String
  | pattern _ => "pattern"
  | r => r.name.name

def content? : Rule → Option Data
  | required => none
  | requiredOneOf => none
  | minLength n => some (.number (.natural n))
  | maxLength n => some (.number (.natural n))
  | exactLength n => some (.number (.natural n))
  | rangeLength min max =>
    some (.record [("min", .number (.natural min)), ("max", .number (.natural max))])
  | comparison _ t => some t.toData
  | inList items => some (Data.textList items)
  | equalTo r => some r.toData
  | differentFrom r => some r.toData
  | date f => some f.toData
  | pattern p => some p.toData

def toData (r : Rule) : Data :=
  .record <| ("rule", .text r.tag) ::
    match r.content? with
    | none => []
    | some d => [("param", d)]

/-- A rule by its tag; parameters are not checked again. -/
def ofContent? (l : Leniency) (tag : String) (content : Option Data) : Option Rule :=
  if tag == "pattern" then (mandatory (Pattern.ofData? l) content).map pattern
  else
    match RuleName.ofName? tag with
    | none => none
    | some (.pattern _) => none
    | some .required => (nothing? content).map fun _ => required
    | some .requiredOneOf => (nothing? content).map fun _ => requiredOneOf
    | some .minLength => (mandatory natural? content).map minLength
    | some .maxLength => (mandatory natural? content).map maxLength
    | some .exactLength => (mandatory natural? content).map exactLength
    | some .rangeLength => mandatory lengthRangeOfData? content
    | some (.comparison c) => (mandatory Threshold.ofData? content).map (comparison c)
    | some .inList => (mandatory (list? text?) content).map inList
    | some .equalTo => (mandatory FieldRef.ofData? content).map equalTo
    | some .differentFrom => (mandatory FieldRef.ofData? content).map differentFrom
    | some .date => (mandatory (DateFormat.ofData? l) content).map date

def ofData? (d : Data) : Option Rule := do
  let rule ← tagged? "rule" "param" d
  ofContent? rule.leniency rule.tag rule.content

end Rule

end FormRules
