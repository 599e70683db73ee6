import FormRules.Calendar
import FormRules.Number.Binary64
import FormRules.Rule.Name

/-!
Rules with their parameters, and the text of a rule.
-/

namespace FormRules

/-- A number to compare with, and its text as declared. -/
structure Threshold where
  value : Binary64
  text : String
deriving DecidableEq, Repr

structure FieldRef where
  target : String
  label : String
deriving DecidableEq, Repr

inductive Rule where
  | required
  | requiredOneOf
  | minLength (n : Nat)
  | maxLength (n : Nat)
  | exactLength (n : Nat)
  | rangeLength (min max : Nat)
  | comparison (c : Comparison) (t : Threshold)
  | inList (items : List String)
  | equalTo (r : FieldRef)
  | differentFrom (r : FieldRef)
  | date (f : DateFormat)
  | pattern (p : Pattern)
deriving DecidableEq, Repr

inductive RuleParam where
  | none
  | scalar (value : String)
  | pair (first second : String)
  | list (items : List String)
deriving DecidableEq, Repr

namespace Rule

def name : Rule → RuleName
  | required => .required
  | requiredOneOf => .requiredOneOf
  | minLength _ => .minLength
  | maxLength _ => .maxLength
  | exactLength _ => .exactLength
  | rangeLength _ _ => .rangeLength
  | comparison c _ => .comparison c
  | inList _ => .inList
  | equalTo _ => .equalTo
  | differentFrom _ => .differentFrom
  | date _ => .date
  | pattern p => .pattern p

def param : Rule → RuleParam
  | required => .none
  | requiredOneOf => .none
  | pattern _ => .none
  | minLength n => .scalar (toString n)
  | maxLength n => .scalar (toString n)
  | exactLength n => .scalar (toString n)
  | rangeLength min max => .pair (toString min) (toString max)
  | comparison _ t => .scalar t.text
  | inList items => .list items
  | equalTo r => .pair r.target r.label
  | differentFrom r => .pair r.target r.label
  | date f => .pair f.order.name f.separator.name

def target? : Rule → Option String
  | equalTo r => some r.target
  | differentFrom r => some r.target
  | _ => none

/-- The text of a rule: reading it gives the rule again if the rule was read from a text. -/
def text (r : Rule) : String :=
  match r.param with
  | .none => r.name.name
  | .scalar value => r.name.name ++ "[" ++ value ++ "]"
  | .pair first second => r.name.name ++ "[" ++ first ++ "," ++ second ++ "]"
  | .list items => r.name.name ++ "[" ++ ",".intercalate items ++ "]"

/-- Equality of rules, with thresholds compared as numbers: the two zeros are one. -/
def same : Rule → Rule → Bool
  | comparison c t, comparison d u => c == d && t.value.rank == u.value.rank && t.text == u.text
  | r, s => r == s

end Rule

end FormRules
