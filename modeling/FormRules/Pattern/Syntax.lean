import FormRules.Regex

/-!
The regular expressions behind the patterns.

Digits and letters are those of ASCII unless an expression says otherwise. Mail addresses and urls
are read without regard to case.
-/

namespace FormRules.Pattern.Syntax
open Regex

def lowers : CharSet := .ofRange 'a' 'z'
def uppers : CharSet := .ofRange 'A' 'Z'
def digits : CharSet := .ofRange '0' '9'
def letters : CharSet := lowers ++ uppers
def alphanumerics : CharSet := letters ++ digits

/-! ## Letters, digits, numbers -/

def alpha : Regex := .star (.chars letters)
def alphaNumeric : Regex := plus (.chars alphanumerics)
def alphaDash : Regex := plus (.chars (alphanumerics ++ .ofString "_-"))
def alphaSpace : Regex := .star (.chars (letters ++ .ofString " "))
def alphaNumericSpace : Regex := plus (.chars (alphanumerics ++ .ofString " "))
def alphaDashSpace : Regex := plus (.chars (alphanumerics ++ .ofString "_- "))

def minus : Regex := opt (char '-')

def numeric : Regex := seq [minus, .star digit, opt (char '.'), plus digit]
def integer : Regex := seq [minus, plus digit]
def decimal : Regex := seq [minus, plus digit, char '.', plus digit]
def natural : Regex := plus digit
def naturalNoZero : Regex := seq [range '1' '9', .star digit]

def base64 : Regex := plus (.chars (alphanumerics ++ .ofString "/+="))

/-! ## Addresses -/

def atomChars : CharSet := lowers ++ digits ++ .ofString "-~!$%^&*_=+\x7d\x7b'?"

def hostChars : CharSet := lowers ++ digits ++ .ofString "-_"

def topLevelDomain : Regex :=
  anyOf [text "aero", text "arpa", text "biz", text "com", text "coop", text "edu", text "gov",
    text "info", text "int", text "mil", text "museum", text "name", text "net", text "org",
    text "pro", text "travel", text "mobi", times 2 (.chars lowers)]

/-- Dotted labels, the first of which does not start with a dash, under a top-level domain. -/
def mailDomain : Regex :=
  seq [.chars (lowers ++ digits ++ .ofString "_"), .star (.chars hostChars),
    .star (seq [char '.', plus (.chars hostChars)]), char '.', topLevelDomain]

def upToThreeDigits : Regex := between 1 3 digit

def mailQuad : Regex :=
  seq [upToThreeDigits, char '.', upToThreeDigits, char '.', upToThreeDigits, char '.',
    upToThreeDigits]

def email : Regex :=
  caseless <| seq [plus (.chars atomChars), .star (seq [char '.', plus (.chars atomChars)]),
    char '@', .alt mailDomain mailQuad, opt (seq [char ':', between 1 5 digit])]

/-- A decimal number up to 255; one or two digits may start with a zero. -/
def octet : Regex :=
  anyOf [seq [text "25", range '0' '5'], seq [char '2', range '0' '4', digit],
    seq [char '1', times 2 digit], between 1 2 digit]

def ipAddress : Regex := seq [times 3 (seq [octet, char '.']), octet]

/-! ## Urls -/

def scheme : Regex := seq [.alt (seq [text "http", opt (char 's')]) (text "ftp"), text "://"]

def firstOctet : Regex :=
  anyOf [seq [range '1' '9', opt digit], seq [char '1', digit, digit],
    seq [char '2', oneOf "01", digit], seq [text "22", range '0' '3']]

def middleOctet : Regex :=
  anyOf [seq [opt (char '1'), between 1 2 digit], seq [char '2', range '0' '4', digit],
    seq [text "25", range '0' '5']]

def lastOctet : Regex :=
  anyOf [seq [range '1' '9', opt digit], seq [char '1', digit, digit],
    seq [char '2', range '0' '4', digit], seq [text "25", range '0' '4']]

def publicQuad : Regex :=
  seq [firstOctet, times 2 (seq [char '.', middleOctet]), char '.', lastOctet]

/-- Letters of a host name: those of ASCII, and all from U+00A1 to U+FFFF. -/
def nameLetters : CharSet := lowers ++ .ofRange '\u00a1' '\uffff'

def nameChars : CharSet := nameLetters ++ digits

/-- A label of a host name: dashes stand only between other characters. -/
def nameLabel : Regex :=
  seq [.star (seq [.chars nameChars, .star (char '-')]), plus (.chars nameChars)]

def hostName : Regex :=
  seq [nameLabel, .star (seq [char '.', nameLabel]), char '.', atLeast 2 (.chars nameLetters)]

def nonSpaces : CharSet :=
  { ranges := [('\u0009', '\u000d'), (' ', ' '), ('\u0085', '\u0085'), ('\u00a0', '\u00a0'),
      ('\u1680', '\u1680'), ('\u2000', '\u200a'), ('\u2028', '\u2029'), ('\u202f', '\u202f'),
      ('\u205f', '\u205f'), ('\u3000', '\u3000')],
    complemented := true }

def url : Regex :=
  caseless <| seq [opt scheme, .alt publicQuad hostName, opt (seq [char ':', between 2 5 digit]),
    opt (seq [char '/', .star (.chars nonSpaces)])]

def dottedDigits : Regex := seq [char '.', upToThreeDigits]

/-- Hosts that start like an address of a loopback, link-local or private network. -/
def privateHost : Regex :=
  .cat (anyOf [
      seq [.alt (text "10") (text "127"), times 3 dottedDigits],
      seq [.alt (text "169.254") (text "192.168"), times 2 dottedDigits],
      seq [text "172.", anyOf [seq [char '1', range '6' '9'], seq [char '2', digit],
        seq [char '3', oneOf "01"]], times 2 dottedDigits]])
    anything

/-! ## Times, passwords, card numbers -/

def sixty : Regex := seq [range '0' '5', digit]

def time : Regex :=
  seq [.alt (seq [oneOf "01", digit]) (seq [char '2', range '0' '3']), char ':', sixty, char ':',
    sixty]

def passwordSymbols : CharSet := .ofString "$@!%*?&"

def password : Regex := atLeast 6 (.chars (alphanumerics ++ passwordSymbols))

def creditCard : Regex :=
  anyOf [seq [char '4', times 12 digit, opt (times 3 digit)],
    seq [char '5', range '1' '5', times 14 digit],
    seq [char '6', .alt (text "011") (seq [char '5', digit, digit]), times 12 digit],
    seq [char '3', oneOf "47", times 13 digit],
    seq [char '3', .alt (seq [char '0', range '0' '5']) (seq [oneOf "68", digit]),
      times 11 digit],
    seq [anyOf [text "2131", text "1800", seq [text "35", times 3 digit]], times 11 digit]]

end FormRules.Pattern.Syntax
