import FormRules.Message.Key
import FormRules.Rule.Reader

/-!
What can be wrong with the configuration of a form, and how it is reported.
-/

namespace FormRules

inductive ConfigError where
  /-- A token of a field's rule text is no rule. -/
  | rule (field label : String) (cause : RuleError)
  | unknownTarget (field : String) (rule : RuleName) (target : String)
  | duplicateField (id : String)
  | emptyFieldId
  | missingMessage (field : String) (rule : RuleName) (key : MessageKey)
  | unknownPlaceholder (key : MessageKey) (placeholder : String)
  | missingOption (option : String)
  | errorDisplayMode
deriving DecidableEq, Repr

namespace ConfigError

def quote (s : String) : String :=
  "\"" ++ s ++ "\""

def message : ConfigError → String
  | rule field label cause =>
    "The " ++ quote label ++ " rule of " ++ quote field ++ " field is incorrect: " ++ cause.message
  | unknownTarget field name target =>
    "The " ++ quote name.name ++ " rule of " ++ quote field ++ " field references unknown field " ++
      quote target
  | duplicateField id => "Field id " ++ quote id ++ " is declared more than once"
  | emptyFieldId => "Field ids must not be empty"
  | missingMessage field name key =>
    "Message " ++ quote key.name ++ " needed by the " ++ quote name.name ++ " rule of " ++
      quote field ++ " field is missing"
  | unknownPlaceholder key placeholder =>
    "Message " ++ quote key.name ++ " uses unknown placeholder \x7b" ++ placeholder ++ "\x7d"
  | missingOption option => quote option ++ " option is required and must be a non-empty string"
  | errorDisplayMode =>
    "Choose exactly one way to display errors: error_container, real_time_checking or " ++
      "on_blur_checking"

/-- All errors of a configuration, one a line under their number. -/
def report (errors : List ConfigError) : String :=
  errors.foldl (fun text e => text ++ "\n  - " ++ e.message)
    (toString errors.length ++ " configuration error(s)")

end ConfigError

end FormRules
