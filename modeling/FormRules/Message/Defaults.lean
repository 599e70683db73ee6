import FormRules.Message.Catalog

/-!
The English messages.
-/

namespace FormRules

def MessageKey.english : MessageKey → String
  | .rule .required => "\x7bfield\x7d is required."
  | .rule .requiredOneOf => "\x7bfield\x7d is required."
  | .rule .minLength => "\x7bfield\x7d requires a minimum of \x7bmin\x7d characters"
  | .rule .maxLength => "\x7bfield\x7d requires a maximum of \x7bmax\x7d characters"
  | .rule .exactLength => "\x7bfield\x7d requires exactly \x7bexact\x7d characters"
  | .rule .rangeLength => "\x7bfield\x7d requires between \x7bmin\x7d and \x7bmax\x7d characters"
  | .rule (.comparison .greaterThan) => "\x7bfield\x7d requires a value greater than \x7bnumber\x7d"
  | .rule (.comparison .greaterThanEqualTo) =>
    "\x7bfield\x7d requires a value greater than or equal to \x7bnumber\x7d"
  | .rule (.comparison .lessThan) => "\x7bfield\x7d requires a value less than \x7bnumber\x7d"
  | .rule (.comparison .lessThanEqualTo) =>
    "\x7bfield\x7d requires a value less than or equal to \x7bnumber\x7d"
  | .rule .inList => "\x7bfield\x7d accepts only '\x7bvalues\x7d' values"
  | .rule .equalTo => "\x7bfield\x7d must be identical to the \x7btarget\x7d field"
  | .rule .differentFrom => "\x7bfield\x7d must be different from the \x7btarget\x7d field"
  | .rule .date => "\x7bfield\x7d must contain a valid date. Format: \x7bformat\x7d"
  | .rule (.pattern .alpha) => "\x7bfield\x7d accepts only alphabetical characters"
  | .rule (.pattern .alphaNumeric) => "\x7bfield\x7d accepts only alpha-numeric characters"
  | .rule (.pattern .alphaDash) =>
    "\x7bfield\x7d accepts only alpha-numeric characters, underscores, and dashes"
  | .rule (.pattern .alphaSpace) => "\x7bfield\x7d accepts only alphabetical characters and spaces"
  | .rule (.pattern .alphaNumericSpace) =>
    "\x7bfield\x7d accepts only alpha-numeric characters and spaces"
  | .rule (.pattern .alphaDashSpace) =>
    "\x7bfield\x7d accepts only alpha-numeric characters, underscores, dashes and spaces"
  | .rule (.pattern .numeric) =>
    "\x7bfield\x7d accepts only numbers (integer or decimal, positive or negative)"
  | .rule (.pattern .integer) =>
    "\x7bfield\x7d accepts only numbers (integer, positive or negative)"
  | .rule (.pattern .decimal) =>
    "\x7bfield\x7d accepts only numbers (decimal, positive or negative, e.g. 10.55)"
  | .rule (.pattern .natural) => "\x7bfield\x7d accepts only digits"
  | .rule (.pattern .naturalNoZero) =>
    "\x7bfield\x7d accepts only digits and must be greater than zero"
  | .rule (.pattern .email) => "\x7bfield\x7d must contain a valid email address"
  | .rule (.pattern .ipAddress) => "\x7bfield\x7d must contain a valid IP address"
  | .rule (.pattern .base64) => "\x7bfield\x7d must contain a base64 string"
  | .rule (.pattern .url) => "\x7bfield\x7d must contain a valid url"
  | .rule (.pattern .time) => "\x7bfield\x7d must contain a valid time. Format: hh:mm:ss"
  | .rule (.pattern .password) =>
    "The password must be at least 6 characters long and contain at least 1 uppercase, 1 " ++
      "lowercase, 1 digit and a special character ($, @, !, %, *, ?, &)"
  | .rule (.pattern .creditCard) =>
    "Incorrect number. Accepted cards: Visa, MasterCard, American Express, Diners Club, " ++
      "Discover and JCB"
  | .notANumber => "\x7bfield\x7d must be a number."
  | .requiredCheckbox => "\x7bfield\x7d is required. One of the checkboxes must be checked."
  | .requiredRadio => "\x7bfield\x7d is required. Select an option."

/-- The English catalog: a message for every key but one, which no rule uses. -/
def Catalog.english : Catalog where
  template key := if key ∈ MessageKey.builtIn then some key.english else none

end FormRules
