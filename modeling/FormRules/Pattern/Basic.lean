/-!
The fixed patterns a rule may ask a value to fit, by name.
-/

namespace FormRules

inductive Pattern where
  | alpha
  | alphaNumeric
  | alphaDash
  | alphaSpace
  | alphaNumericSpace
  | alphaDashSpace
  | numeric
  | integer
  | decimal
  | natural
  | naturalNoZero
  | email
  | ipAddress
  | base64
  | url
  | time
  | password
  | creditCard
deriving DecidableEq, Repr

namespace Pattern

def all : List Pattern :=
  [alpha, alphaNumeric, alphaDash, alphaSpace, alphaNumericSpace, alphaDashSpace, numeric,
    integer, decimal, natural, naturalNoZero, email, ipAddress, base64, url, time, password,
    creditCard]

/-- The name a rule text uses. -/
def name : Pattern → String
  | alpha => "alpha"
  | alphaNumeric => "alpha_numeric"
  | alphaDash => "alpha_dash"
  | alphaSpace => "alpha_space"
  | alphaNumericSpace => "alpha_numeric_space"
  | alphaDashSpace => "alpha_dash_space"
  | numeric => "numeric"
  | integer => "integer"
  | decimal => "decimal"
  | natural => "natural"
  | naturalNoZero => "natural_no_zero"
  | email => "email"
  | ipAddress => "ip_address"
  | base64 => "base64"
  | url => "url"
  | time => "time"
  | password => "password"
  | creditCard => "credit_card"

def ofName? (s : String) : Option Pattern :=
  all.find? fun p => p.name == s

/-- The message of these patterns is fixed text, without placeholders. -/
def hasStaticMessage : Pattern → Bool
  | password => true
  | creditCard => true
  | _ => false

theorem mem_all (p : Pattern) : p ∈ all := by
  cases p <;> decide

theorem ofName?_name (p : Pattern) : ofName? p.name = some p := by
  cases p <;> decide

end Pattern

end FormRules
