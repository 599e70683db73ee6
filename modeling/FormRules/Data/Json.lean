import FormRules.Data
import FormRules.Number.Decimal
import FormRules.Text

/-!
Reading data trees from JSON.

Strings may not hold control characters or lone surrogates, lists and records nest at most 127
deep, and a number beyond the doubles is refused. Of a number's digits as many count as fit 64
bits; the others only move the point.
-/

namespace FormRules.Data.Json

def isBlank (c : Char) : Bool :=
  c == ' ' || c == '\t' || c == '\n' || c == '\r'

def skipBlanks (cs : List Char) : List Char :=
  cs.dropWhile isBlank

/-! ## Strings -/

def hexDigit? (c : Char) : Option Nat :=
  if c.isDigit then some (c.toNat - '0'.toNat)
  else if 'a' ≤ c ∧ c ≤ 'f' then some (c.toNat - 'a'.toNat + 10)
  else if 'A' ≤ c ∧ c ≤ 'F' then some (c.toNat - 'A'.toNat + 10)
  else none

def hexValue? (cs : List Char) : Option Nat :=
  cs.foldlM (fun n c => (hexDigit? c).map (16 * n + ·)) 0

def escape? : Char → Option Char
  | '"' => some '"'
  | '\\' => some '\\'
  | '/' => some '/'
  | 'b' => some '\x08'
  | 'f' => some '\x0c'
  | 'n' => some '\n'
  | 'r' => some '\r'
  | 't' => some '\t'
  | _ => none

def isHighSurrogate (n : Nat) : Bool :=
  0xD800 ≤ n && n < 0xDC00

def isLowSurrogate (n : Nat) : Bool :=
  0xDC00 ≤ n && n < 0xE000

/--
The characters up to the closing quote, and what follows it. `high` is a high surrogate just read,
which only a low one may follow.
-/
def string? (high : Option Nat) : List Char → Option (List Char × List Char)
  | '\\' :: 'u' :: a :: b :: c :: d :: rest =>
    match hexValue? [a, b, c, d], high with
    | none, _ => none
    | some n, none =>
      if isHighSurrogate n then string? (some n) rest
      else if isLowSurrogate n then none
      else (string? none rest).map fun (cs, r) => (Char.ofNat n :: cs, r)
    | some n, some h =>
      if isLowSurrogate n then
        (string? none rest).map fun (cs, r) =>
          (Char.ofNat (0x10000 + (h - 0xD800) * 0x400 + (n - 0xDC00)) :: cs, r)
      else none
  | '\\' :: e :: rest =>
    match high, escape? e with
    | none, some c => (string? none rest).map fun (cs, r) => (c :: cs, r)
    | _, _ => none
  | c :: rest =>
    if high.isSome || c.toNat < 0x20 || c == '\\' then none
    else if c == '"' then some ([], rest)
    else (string? none rest).map fun (cs, r) => (c :: cs, r)
  | [] => none

/-! ## Numbers -/

/-- Digits read so far: a number of at most 64 bits and the power of ten it stands for. -/
structure Scaled where
  significand : Nat := 0
  exponent : Int := 0
  full : Bool := false

namespace Scaled

def push? (s : Scaled) (c : Char) : Option Nat :=
  let n := 10 * s.significand + (c.toNat - '0'.toNat)
  if n < Number.unsignedLimit then some n else none

/-- A digit before the point: once one does not fit, it and all later ones only count. -/
def whole (s : Scaled) (c : Char) : Scaled :=
  match s.full, s.push? c with
  | false, some n => { s with significand := n }
  | _, _ => { s with exponent := s.exponent + 1, full := true }

/-- A digit after the point: once one does not fit, it and all later ones are left out. -/
def fraction (s : Scaled) (c : Char) : Scaled :=
  match s.full, s.push? c with
  | false, some n => { s with significand := n, exponent := s.exponent - 1 }
  | _, _ => { s with full := true }

def pow10 (n : Nat) : Binary64 :=
  .ofRatio false (Nat.pow 10 n) 1

/-- Divides by `10 ^ n`, by at most `10 ^ 308` at a time. -/
def divPow10 (x : Binary64) (n : Nat) : Binary64 :=
  if n ≤ 308 then x.divAbs (pow10 n)
  else if x.pattern = 0 then x
  else divPow10 (x.divAbs (pow10 308)) (n - 308)
termination_by n

def toBinary64? (s : Scaled) : Option Binary64 :=
  let x := Binary64.ofRatio false s.significand 1
  if x.pattern = 0 then some x
  else if s.exponent < 0 then some (divPow10 x s.exponent.natAbs)
  else if s.exponent ≤ 308 then
    let y := x.mulAbs (pow10 s.exponent.natAbs)
    if y.isInfinite then none else some y
  else none

end Scaled

def digits (cs : List Char) : List Char × List Char :=
  (cs.takeWhile Char.isDigit, cs.dropWhile Char.isDigit)

def fraction? : List Char → Option (List Char × List Char)
  | '.' :: cs =>
    let (ds, rest) := digits cs
    if ds.isEmpty then none else some (ds, rest)
  | cs => some ([], cs)

def exponentDigits? (negative : Bool) (cs : List Char) : Option (Int × List Char) :=
  let (ds, rest) := digits cs
  if ds.isEmpty then none
  else some (if negative then -digitsValue ds else digitsValue ds, rest)

def exponent? : List Char → Option (Option Int × List Char)
  | c :: cs =>
    if c == 'e' || c == 'E' then
      let read :=
        match cs with
        | '-' :: cs => exponentDigits? true cs
        | '+' :: cs => exponentDigits? false cs
        | cs => exponentDigits? false cs
      read.map fun (e, rest) => (some e, rest)
    else some (none, c :: cs)
  | [] => some (none, [])

/-- Whole numbers stay whole if 64 bits hold them; minus zero is a double. -/
def classify? (negative : Bool) (whole fraction : List Char) (exponent : Option Int) :
    Option Number :=
  let n := digitsValue whole
  if fraction.isEmpty && exponent.isNone && !negative && n < Number.unsignedLimit then
    some (.natural n)
  else if fraction.isEmpty && exponent.isNone && negative && 0 < n && n ≤ Number.signedLimit then
    some (.negative n)
  else
    let start : Scaled := whole.foldl Scaled.whole {}
    let scaled := fraction.foldl Scaled.fraction { start with full := false }
    let scaled := { scaled with exponent := scaled.exponent + exponent.getD 0 }
    scaled.toBinary64?.map fun x => .real (if negative then x.neg else x)

def unsigned? (negative : Bool) (cs : List Char) : Option (Number × List Char) := do
  let (whole, rest) := digits cs
  if whole.isEmpty || (whole.head? == some '0' && whole.length > 1) then none
  else
    let (fraction, rest) ← fraction? rest
    let (exponent, rest) ← exponent? rest
    let n ← classify? negative whole fraction exponent
    some (n, rest)

def number? : List Char → Option (Number × List Char)
  | '-' :: cs => unsigned? true cs
  | cs => unsigned? false cs

/-! ## Values -/

def word? (word : String) (d : Data) (cs : List Char) : Option (Data × List Char) :=
  (Text.dropPrefix? word.toList cs).map fun rest => (d, rest)

mutual

/-- A value and what follows it. Every call takes one unit of fuel, every nesting one of depth. -/
def value? : (fuel depth : Nat) → List Char → Option (Data × List Char)
  | 0, _, _ => none
  | fuel + 1, depth, cs =>
    match skipBlanks cs with
    | '"' :: rest => (string? none rest).map fun (s, r) => (.text (String.ofList s), r)
    | '[' :: rest =>
      match depth, skipBlanks rest with
      | 0, _ => none
      | _, ']' :: r => some (.list [], r)
      | depth + 1, r => (items? fuel depth r).map fun (xs, r) => (.list xs, r)
    | '{' :: rest =>
      match depth, skipBlanks rest with
      | 0, _ => none
      | _, '}' :: r => some (.record [], r)
      | depth + 1, r => (members? fuel depth r).map fun (ms, r) => (.record ms, r)
    | 't' :: rest => word? "rue" (.bool true) rest
    | 'f' :: rest => word? "alse" (.bool false) rest
    | 'n' :: rest => word? "ull" .null rest
    | rest => (number? rest).map fun (n, r) => (.number n, r)

def items? : (fuel depth : Nat) → List Char → Option (List Data × List Char)
  | 0, _, _ => none
  | fuel + 1, depth, cs => do
    let (x, rest) ← value? fuel depth cs
    match skipBlanks rest with
    | ',' :: rest =>
      let (xs, rest) ← items? fuel depth rest
      some (x :: xs, rest)
    | ']' :: rest => some ([x], rest)
    | _ => none

def members? : (fuel depth : Nat) → List Char → Option (List (String × Data) × List Char)
  | 0, _, _ => none
  | fuel + 1, depth, cs => do
    match skipBlanks cs with
    | '"' :: rest =>
      let (key, rest) ← string? none rest
      match skipBlanks rest with
      | ':' :: rest =>
        let (x, rest) ← value? fuel depth rest
        let member := (String.ofList key, x)
        match skipBlanks rest with
        | ',' :: rest =>
          let (ms, rest) ← members? fuel depth rest
          some (member :: ms, rest)
        | '}' :: rest => some ([member], rest)
        | _ => none
      | _ => none
    | _ => none

end

end Json

/-- The tree a JSON text holds, if it holds one and nothing else. -/
def ofJson? (s : String) : Option Data :=
  let cs := s.toList
  match Json.value? (2 * cs.length + 1) 127 cs with
  | some (d, rest) => if (Json.skipBlanks rest).isEmpty then some d else none
  | none => none

end FormRules.Data
