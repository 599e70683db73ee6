import FormRules.Regex
import FormRules.Text

/-!
Date formats, and the texts that are dates in a format.

Dates run from year 1600 to 9999. A date is a day up to the 28th in any month, a 29th or 30th
outside February, a 31st of a long month, or the 29th of February of a leap year.
-/

namespace FormRules

inductive DateOrder where
  | dayMonthYear
  | yearMonthDay
deriving DecidableEq, Repr

inductive DateSeparator where
  | slash
  | dash
  | dot
deriving DecidableEq, Repr

structure DateFormat where
  order : DateOrder
  separator : DateSeparator
deriving DecidableEq, Repr

namespace DateOrder

def all : List DateOrder :=
  [dayMonthYear, yearMonthDay]

def name : DateOrder → String
  | dayMonthYear => "ddmmyyyy"
  | yearMonthDay => "yyyymmdd"

def ofName? (s : String) : Option DateOrder :=
  all.find? fun o => o.name == s

end DateOrder

namespace DateSeparator

def all : List DateSeparator :=
  [slash, dash, dot]

def char : DateSeparator → Char
  | slash => '/'
  | dash => '-'
  | dot => '.'

def name (s : DateSeparator) : String :=
  s.char.toString

def ofName? (s : String) : Option DateSeparator :=
  all.find? fun o => o.name == s

end DateSeparator

namespace DateFormat

def ofChars? (cs : List Char) : Option DateFormat := do
  let (order, separator) ← Text.splitOnce? ',' cs
  let order ← DateOrder.ofName? (String.ofList order)
  let separator ← DateSeparator.ofName? (String.ofList separator)
  some ⟨order, separator⟩

/-- The format as a rule text gives it. -/
def param (f : DateFormat) : String :=
  f.order.name ++ "," ++ f.separator.name

/-- The format as a person writes it. -/
def layout (f : DateFormat) : String :=
  let s := f.separator.name
  match f.order with
  | .dayMonthYear => "dd" ++ s ++ "mm" ++ s ++ "yyyy"
  | .yearMonthDay => "yyyy" ++ s ++ "mm" ++ s ++ "dd"

/-! ## Dates as regular expressions -/

open Regex

def century : Regex :=
  .alt (seq [char '1', range '6' '9']) (seq [range '2' '9', digit])

def year : Regex :=
  seq [century, times 2 digit]

/-- A multiple of four up to 96, other than zero. -/
def leapTwoDigits : Regex :=
  anyOf [seq [char '0', oneOf "48"], seq [oneOf "2468", oneOf "048"],
    seq [oneOf "13579", oneOf "26"]]

/-- A multiple of four from 16 to 96. -/
def leapCentury : Regex :=
  anyOf [text "16", seq [oneOf "2468", oneOf "048"], seq [oneOf "3579", oneOf "26"]]

def leapYear : Regex :=
  .alt (seq [century, leapTwoDigits]) (seq [leapCentury, text "00"])

def month : Regex :=
  .alt (seq [char '0', range '1' '9']) (seq [char '1', range '0' '2'])

def longMonth : Regex :=
  .alt (seq [char '0', oneOf "13578"]) (seq [char '1', oneOf "02"])

def monthButFebruary : Regex :=
  .alt (seq [char '0', oneOf "13456789"]) (seq [char '1', range '0' '2'])

/-- A day that every month has. -/
def commonDay : Regex :=
  anyOf [seq [char '0', range '1' '9'], seq [char '1', digit], seq [char '2', range '0' '8']]

def regex (f : DateFormat) : Regex :=
  let s := char f.separator.char
  match f.order with
  | .dayMonthYear =>
    anyOf [seq [text "31", s, longMonth, s, year],
      seq [.alt (text "29") (text "30"), s, monthButFebruary, s, year],
      seq [text "29", s, text "02", s, leapYear],
      seq [commonDay, s, month, s, year]]
  | .yearMonthDay =>
    anyOf [seq [year, s, longMonth, s, text "31"],
      seq [year, s, monthButFebruary, s, .alt (text "29") (text "30")],
      seq [leapYear, s, text "02", s, text "29"],
      seq [year, s, month, s, commonDay]]

def accepts (f : DateFormat) (s : String) : Bool :=
  f.regex.accepts s.toList

end DateFormat

end FormRules
