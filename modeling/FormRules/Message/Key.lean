import FormRules.Rule.Basic

/-!
Message keys: what a message template is filed under.
-/

namespace FormRules

inductive MessageKey where
  /-- A violated rule. -/
  | rule (r : RuleName)
  /-- A comparison of a value that is no number. -/
  | notANumber
  /-- A group of checkboxes, none of them checked. -/
  | requiredCheckbox
  /-- A group of radio buttons, none of them chosen. -/
  | requiredRadio
deriving DecidableEq, Repr

namespace MessageKey

def all : List MessageKey :=
  RuleName.all.map rule ++ [notANumber, requiredCheckbox, requiredRadio]

/-- The keys that have a built-in message. -/
def builtIn : List MessageKey :=
  all.filter fun k => k != .rule .requiredOneOf

def name : MessageKey → String
  | rule r => r.name
  | notANumber => "is_nan"
  | requiredCheckbox => "required_checkbox"
  | requiredRadio => "required_radio"

/-- The key a language file means; two of them have a second spelling. -/
def ofName? (s : String) : Option MessageKey :=
  if s == "is_nan" then some notANumber
  else if s == "required_checkbox" || s == "requiredCheckbox" then some requiredCheckbox
  else if s == "required_radio" || s == "requiredRadio" then some requiredRadio
  else
    match RuleName.ofName? s with
    | some .requiredOneOf => none
    | some r => some (rule r)
    | none => none

/-- The template is the message, placeholders or not. -/
def isStatic : MessageKey → Bool
  | rule (.pattern p) => p.hasStaticMessage
  | _ => false

/-- The placeholders that have a value when a message is rendered. -/
def placeholders : MessageKey → List String
  | rule .minLength => ["field", "min"]
  | rule .maxLength => ["field", "max"]
  | rule .exactLength => ["field", "exact"]
  | rule .rangeLength => ["field", "min", "max"]
  | rule (.comparison _) => ["field", "number"]
  | rule .inList => ["values", "field"]
  | rule .equalTo => ["field", "target"]
  | rule .differentFrom => ["field", "target"]
  | rule .date => ["field", "format"]
  | _ => ["field"]

/-- The keys under which violations of a rule are reported. -/
def ofRule : RuleName → List MessageKey
  | .requiredOneOf => [requiredCheckbox, requiredRadio]
  | .comparison c => [rule (.comparison c), notANumber]
  | r => [rule r]

theorem mem_all (k : MessageKey) : k ∈ all := by
  cases k with
  | rule r => exact List.mem_append_left _ (List.mem_map_of_mem (RuleName.mem_all r))
  | _ => exact List.mem_append_right _ (by decide)

end MessageKey

end FormRules
