import FormRules.Pattern.Basic

/-!
The names of the rules.
-/

namespace FormRules

inductive Comparison where
  | greaterThan
  | greaterThanEqualTo
  | lessThan
  | lessThanEqualTo
deriving DecidableEq, Repr

inductive RuleName where
  | required
  | requiredOneOf
  | minLength
  | maxLength
  | exactLength
  | rangeLength
  | comparison (c : Comparison)
  | inList
  | equalTo
  | differentFrom
  | date
  | pattern (p : Pattern)
deriving DecidableEq, Repr

namespace Comparison

def all : List Comparison :=
  [greaterThan, greaterThanEqualTo, lessThan, lessThanEqualTo]

def name : Comparison → String
  | greaterThan => "greater_than"
  | greaterThanEqualTo => "greater_than_equal_to"
  | lessThan => "less_than"
  | lessThanEqualTo => "less_than_equal_to"

end Comparison

namespace RuleName

def all : List RuleName :=
  [required, requiredOneOf, minLength, maxLength, exactLength, rangeLength] ++
    Comparison.all.map comparison ++ [inList, equalTo, differentFrom, date] ++
    Pattern.all.map pattern

def name : RuleName → String
  | required => "required"
  | requiredOneOf => "required_one_of"
  | minLength => "min_length"
  | maxLength => "max_length"
  | exactLength => "exact_length"
  | rangeLength => "range_length"
  | comparison c => c.name
  | inList => "in_list"
  | equalTo => "equal_to"
  | differentFrom => "different_from"
  | date => "date"
  | pattern p => p.name

def ofName? (s : String) : Option RuleName :=
  all.find? fun r => r.name == s

/-- The pattern a value has to fit, for rules that are a pattern. -/
def pattern? : RuleName → Option Pattern
  | pattern p => some p
  | _ => none

def takesParam : RuleName → Bool
  | required => false
  | requiredOneOf => false
  | pattern _ => false
  | _ => true

theorem mem_all (r : RuleName) : r ∈ all := by
  cases r with
  | comparison c => cases c <;> decide
  | pattern p => cases p <;> decide
  | _ => decide

theorem ofName?_name (r : RuleName) : ofName? r.name = some r := by
  cases r with
  | comparison c => cases c <;> decide
  | pattern p => cases p <;> decide
  | _ => decide

theorem name_of_ofName? {s : String} {r : RuleName} (h : ofName? s = some r) : r.name = s := by
  simpa using List.find?_some h

end RuleName

end FormRules
