import FormRules.Pattern.Basic
import FormRules.Pattern.Syntax
import FormRules.Text

/-!
Which texts fit a pattern.

All but two patterns are a regular expression alone. A url must also have a host that is not in a
private network, and a password one character of each of four kinds.
-/

namespace FormRules

namespace Url

def endsHost (c : Char) : Bool :=
  c == ':' || c == '/'

/-- The text between the scheme, if there is one, and the first colon or slash after it. -/
def host (cs : List Char) : List Char :=
  match Text.dropPrefix? "://".toList (cs.dropWhile fun c => !endsHost c) with
  | some rest => rest.takeWhile fun c => !endsHost c
  | none => cs.takeWhile fun c => !endsHost c

end Url

namespace Pattern

def regex : Pattern → Regex
  | alpha => Syntax.alpha
  | alphaNumeric => Syntax.alphaNumeric
  | alphaDash => Syntax.alphaDash
  | alphaSpace => Syntax.alphaSpace
  | alphaNumericSpace => Syntax.alphaNumericSpace
  | alphaDashSpace => Syntax.alphaDashSpace
  | numeric => Syntax.numeric
  | integer => Syntax.integer
  | decimal => Syntax.decimal
  | natural => Syntax.natural
  | naturalNoZero => Syntax.naturalNoZero
  | email => Syntax.email
  | ipAddress => Syntax.ipAddress
  | base64 => Syntax.base64
  | url => Syntax.url
  | time => Syntax.time
  | password => Syntax.password
  | creditCard => Syntax.creditCard

/-- What a pattern asks for beyond its regular expression. -/
def sideCondition : Pattern → List Char → Bool
  | url, cs => !Syntax.privateHost.accepts (Url.host cs)
  | password, cs =>
    [Syntax.lowers, Syntax.uppers, Syntax.digits, Syntax.passwordSymbols].all fun s =>
      cs.any s.contains
  | _, _ => true

def acceptsChars (p : Pattern) (cs : List Char) : Bool :=
  p.regex.accepts cs && p.sideCondition cs

/-- Whether the whole text fits the pattern. Only two patterns take the empty text. -/
def accepts (p : Pattern) (s : String) : Bool :=
  p.acceptsChars s.toList

end Pattern

end FormRules
