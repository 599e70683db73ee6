import FormRules.Number.Decimal
import FormRules.Pattern
import FormRules.Rule.Basic
import FormRules.Text

/-!
Reading rules from text.

A token is a name, or a name with a parameter in brackets. The name and most parameters are read
without their white space; list items and cross-field references are trimmed instead. Brackets are
checked first, then the name, then the parameter.
-/

namespace FormRules

inductive RuleError where
  | unknownRule
  | invalidParam (value : String)
  | missingParam
  | unexpectedParam
  | malformed (token : String)
deriving DecidableEq, Repr

namespace RuleError

def message : RuleError → String
  | unknownRule => "unknown rule name"
  | invalidParam value => "invalid parameter value \"" ++ value ++ "\""
  | missingParam => "a parameter is required, e.g. rule[value]"
  | unexpectedParam => "this rule does not take a parameter"
  | malformed token => "malformed declaration \"" ++ token ++ "\""

end RuleError

namespace Rule

/-- Length bounds are below this, 2^64. -/
def lengthLimit : Nat := 0x10000000000000000

def bound? (cs : List Char) : Option Nat :=
  if Pattern.natural.acceptsChars cs && digitsValue cs < lengthLimit then some (digitsValue cs)
  else none

def lengthBound? (raw : List Char) : Option Nat :=
  bound? (Text.strip raw)

def lengthRange? (raw : List Char) : Option (Nat × Nat) := do
  let (min, max) ← Text.splitOnce? ',' (Text.strip raw)
  let min ← bound? min
  let max ← bound? max
  if min < max then some (min, max) else none

def threshold? (raw : List Char) : Option Threshold := do
  let cs := Text.strip raw
  if Pattern.numeric.acceptsChars cs then
    let d ← Decimal.ofChars? cs
    some ⟨d.toBinary64, String.ofList cs⟩
  else none

/-- Exactly two parts, a target and a label, neither of them blank. -/
def fieldRef? (raw : List Char) : Option FieldRef :=
  match (Text.splitOn ',' raw).map Text.trim with
  | [target, label] =>
    if target.isEmpty || label.isEmpty then none
    else some ⟨String.ofList target, String.ofList label⟩
  | _ => none

/-- Trimmed items, not all of them blank. -/
def listItems? (raw : List Char) : Option (List String) :=
  let items := (Text.splitOn ',' raw).map Text.trim
  if items.all List.isEmpty then none else some (items.map String.ofList)

def ofName : RuleName → Except RuleError Rule
  | .required => .ok .required
  | .requiredOneOf => .ok .requiredOneOf
  | .pattern p => .ok (.pattern p)
  | _ => .error .missingParam

def orInvalid (raw : List Char) : Option Rule → Except RuleError Rule
  | some rule => .ok rule
  | none => .error (.invalidParam (String.ofList (Text.trim raw)))

def ofParam (raw : List Char) : RuleName → Except RuleError Rule
  | .required => .error .unexpectedParam
  | .requiredOneOf => .error .unexpectedParam
  | .pattern _ => .error .unexpectedParam
  | .minLength => orInvalid raw <| (lengthBound? raw).map minLength
  | .maxLength => orInvalid raw <| (lengthBound? raw).map maxLength
  | .exactLength => orInvalid raw <| (lengthBound? raw).map exactLength
  | .rangeLength => orInvalid raw <| (lengthRange? raw).map fun (min, max) => rangeLength min max
  | .comparison c => orInvalid raw <| (threshold? raw).map (comparison c)
  | .inList => orInvalid raw <| (listItems? raw).map inList
  | .equalTo => orInvalid raw <| (fieldRef? raw).map equalTo
  | .differentFrom => orInvalid raw <| (fieldRef? raw).map differentFrom
  | .date => orInvalid raw <| (DateFormat.ofChars? (Text.strip raw)).map date

def ruleName (cs : List Char) : Except RuleError RuleName :=
  match RuleName.ofName? (String.ofList (Text.strip cs)) with
  | some name => .ok name
  | none => .error .unknownRule

def isBracket (c : Char) : Bool :=
  c == '[' || c == ']'

/-- What stands between the first bracket and a closing one at the end. -/
def bracketed? (rest : List Char) : Option (List Char) :=
  match Text.dropLast? ']' rest with
  | some inner => if inner.any isBracket then none else some inner
  | none => none

def ofTrimmed (cs : List Char) : Except RuleError Rule :=
  match Text.splitOnce? '[' cs with
  | none => do ofName (← ruleName cs)
  | some (head, rest) =>
    match bracketed? rest with
    | none => .error (.malformed (String.ofList cs))
    | some raw => do ofParam raw (← ruleName head)

def ofChars (cs : List Char) : Except RuleError Rule :=
  ofTrimmed (Text.trim cs)

def ofText (token : String) : Except RuleError Rule :=
  ofChars token.toList

/-- What a token that is no rule is called: its name as far as it has one, or all of it. -/
def label (token : List Char) : String :=
  let name := Text.strip (token.takeWhile fun c => c != '[')
  String.ofList (if name.isEmpty then Text.trim token else name)

end Rule

end FormRules
