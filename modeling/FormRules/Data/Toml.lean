import FormRules.Data.Json

/-!
Reading data trees from the part of TOML that manifests use: tables, arrays of tables, and keys
with strings of one line, whole numbers and truth values.

A table is defined once: by its header, by dotted keys, or by the headers of the tables inside it,
of which only the last kind may get a header of its own later.
-/

namespace FormRules.Data.Toml

/-! ## Lines -/

/-- The lines of a text, each without its line feed or carriage return and line feed. -/
def lines (cs : List Char) : List (List Char) :=
  let parts := Text.splitOn '\n' cs
  parts.dropLast.map (fun l => (Text.dropLast? '\r' l).getD l) ++ parts.getLast?.toList

def isBlank (c : Char) : Bool :=
  c == ' ' || c == '\t'

def skipBlanks (cs : List Char) : List Char :=
  cs.dropWhile isBlank

/-- Characters that comments and strings may hold. -/
def isPrintable (c : Char) : Bool :=
  c == '\t' || (0x20 ≤ c.toNat && c.toNat != 0x7F)

/-- Whether nothing but a comment is left of a line. -/
def atEnd (cs : List Char) : Bool :=
  match skipBlanks cs with
  | [] => true
  | '#' :: comment => comment.all isPrintable
  | _ => false

/-! ## Keys and values -/

def scalar? (n : Nat) : Option Char :=
  if n < 0xD800 || (0xE000 ≤ n && n < 0x110000) then some (Char.ofNat n) else none

def escape? : Char → Option Char
  | 'b' => some '\x08'
  | 't' => some '\t'
  | 'n' => some '\n'
  | 'f' => some '\x0c'
  | 'r' => some '\r'
  | '"' => some '"'
  | '\\' => some '\\'
  | _ => none

def cons? (c : Option Char) (rest : Option (List Char × List Char)) :
    Option (List Char × List Char) := do
  let (cs, r) ← rest
  some ((← c) :: cs, r)

def basic? : List Char → Option (List Char × List Char)
  | '"' :: rest => some ([], rest)
  | '\\' :: 'u' :: a :: b :: c :: d :: rest =>
    cons? ((Json.hexValue? [a, b, c, d]).bind scalar?) (basic? rest)
  | '\\' :: 'U' :: a :: b :: c :: d :: e :: f :: g :: h :: rest =>
    cons? ((Json.hexValue? [a, b, c, d, e, f, g, h]).bind scalar?) (basic? rest)
  | '\\' :: c :: rest => cons? (escape? c) (basic? rest)
  | c :: rest => if isPrintable c && c != '\\' then cons? (some c) (basic? rest) else none
  | [] => none

def literal? : List Char → Option (List Char × List Char)
  | '\'' :: rest => some ([], rest)
  | c :: rest => if isPrintable c then cons? (some c) (literal? rest) else none
  | [] => none

def isBareKey (c : Char) : Bool :=
  c.isAlphanum || c == '_' || c == '-'

def simpleKey? : List Char → Option (String × List Char)
  | '"' :: rest => (basic? rest).map fun (s, r) => (String.ofList s, r)
  | '\'' :: rest => (literal? rest).map fun (s, r) => (String.ofList s, r)
  | cs =>
    let key := cs.takeWhile isBareKey
    if key.isEmpty then none else some (String.ofList key, cs.dropWhile isBareKey)

/-- A key of one or more parts with dots between them; one unit of fuel for each part. -/
def key? : (fuel : Nat) → List Char → Option (List String × List Char)
  | 0, _ => none
  | fuel + 1, cs => do
    let (part, rest) ← simpleKey? (skipBlanks cs)
    match skipBlanks rest with
    | '.' :: rest =>
      let (parts, rest) ← key? fuel rest
      some (part :: parts, rest)
    | rest => some ([part], rest)

/-- Digits of a base, with single underscores between them. -/
def digits? (digit? : Char → Option Nat) (base : Nat) (cs : List Char) : Option Nat := do
  let groups := Text.splitOn '_' cs
  if groups.any List.isEmpty then none
  else groups.flatten.foldlM (fun n c => (digit? c).map (base * n + ·)) 0

def digitBelow? (base : Nat) (c : Char) : Option Nat :=
  (Json.hexDigit? c).filter (· < base)

def signed? (negative : Bool) (n : Nat) : Option Number :=
  if negative && 0 < n then if n ≤ Number.signedLimit then some (.negative n) else none
  else if n < Number.signedLimit then some (.natural n)
  else none

def decimal? (negative : Bool) (cs : List Char) : Option Number :=
  if cs.head? == some '0' && cs.length > 1 then none
  else (digits? (digitBelow? 10) 10 cs).bind (signed? negative)

def integer? : List Char → Option Number
  | '0' :: 'x' :: cs => (digits? (digitBelow? 16) 16 cs).bind (signed? false)
  | '0' :: 'o' :: cs => (digits? (digitBelow? 8) 8 cs).bind (signed? false)
  | '0' :: 'b' :: cs => (digits? (digitBelow? 2) 2 cs).bind (signed? false)
  | '+' :: cs => decimal? false cs
  | '-' :: cs => decimal? true cs
  | cs => decimal? false cs

def isNumberChar (c : Char) : Bool :=
  c.isAlphanum || c == '_' || c == '+' || c == '-'

def value? : List Char → Option (Data × List Char)
  | '"' :: rest => (basic? rest).map fun (s, r) => (.text (String.ofList s), r)
  | '\'' :: rest => (literal? rest).map fun (s, r) => (.text (String.ofList s), r)
  | cs =>
    let word := cs.takeWhile isNumberChar
    let rest := cs.dropWhile isNumberChar
    if word == "true".toList then some (.bool true, rest)
    else if word == "false".toList then some (.bool false, rest)
    else (integer? word).map fun n => (.number n, rest)

inductive Line where
  | nothing
  | table (path : List String)
  | item (path : List String)
  | entry (path : List String) (d : Data)

def header? (close : List Char) (line : List String → Line) (cs : List Char) : Option Line := do
  let (path, rest) ← key? (cs.length + 1) cs
  let rest ← Text.dropPrefix? close rest
  if atEnd rest then some (line path) else none

def entry? (cs : List Char) : Option Line := do
  let (path, rest) ← key? (cs.length + 1) cs
  let rest ← Text.dropPrefix? ['='] rest
  let (d, rest) ← value? (skipBlanks rest)
  if atEnd rest then some (.entry path d) else none

def line? (cs : List Char) : Option Line :=
  if atEnd cs then some .nothing
  else
    match skipBlanks cs with
    | '[' :: '[' :: rest => header? [']', ']'] .item rest
    | '[' :: rest => header? [']'] .table rest
    | rest => entry? rest

/-! ## Tables -/

inductive Origin where
  | header
  | implied
  | dotted
deriving DecidableEq

inductive Node where
  | value (d : Data)
  | table (origin : Origin) (entries : List (String × Node))
  /-- An array of tables, the last of which can still grow. -/
  | items (init : List (List (String × Node))) (last : List (String × Node))

abbrev Entries := List (String × Node)

def replace (key : String) (node : Node) (es : Entries) : Entries :=
  es.map fun e => if e.1 == key then (key, node) else e

/-- Changes the table at a path, adding tables that the path implies. -/
def descend (change : Entries → Option Entries) : (path : List String) → Entries → Option Entries
  | [], es => change es
  | key :: path, es => do
    match es.lookup key with
    | none => some (es ++ [(key, .table .implied (← descend change path []))])
    | some (.value _) => none
    | some (.table origin t) => some (replace key (.table origin (← descend change path t)) es)
    | some (.items init last) => some (replace key (.items init (← descend change path last)) es)

/-- Adds a value under a key of one or more parts, not to tables that a header defined. -/
def insert (d : Data) : (path : List String) → Entries → Option Entries
  | [], _ => none
  | [key], es => if (es.lookup key).isSome then none else some (es ++ [(key, .value d)])
  | key :: path, es => do
    match es.lookup key with
    | none => some (es ++ [(key, .table .dotted (← insert d path []))])
    | some (.table origin t) =>
      if origin = .header || (path.length = 1 && origin != .dotted) then none
      else some (replace key (.table origin (← insert d path t)) es)
    | some (.items init last) =>
      if path.length = 1 then none else some (replace key (.items init (← insert d path last)) es)
    | some (.value _) => none

structure Section where
  header : Line
  entries : List (List String × Data)

/-- The sections of a text; the first one has no header. -/
def sections (ls : List Line) : List Section :=
  (ls.foldr (fun l (done : List Section × List (List String × Data)) =>
    match l with
    | .nothing => done
    | .entry path d => (done.1, (path, d) :: done.2)
    | header => (⟨header, done.2⟩ :: done.1, [])) ([], [])) |>
    fun (done, entries) => ⟨.nothing, entries⟩ :: done

def insertAll (entries : List (List String × Data)) (es : Entries) : Option Entries :=
  entries.foldlM (fun es (path, d) => insert d path es) es

/-- Opens the table a header names in the table around it, and fills it. -/
def openTable (key : String) (entries : List (List String × Data)) (es : Entries) :
    Option Entries := do
  match es.lookup key with
  | none => some (es ++ [(key, .table .header (← insertAll entries []))])
  | some (.table .implied t) => some (replace key (.table .header (← insertAll entries t)) es)
  | some _ => none

/-- Adds a table to the array of tables a header names, and fills it. -/
def openItem (key : String) (entries : List (List String × Data)) (es : Entries) :
    Option Entries := do
  let t ← insertAll entries []
  match es.lookup key with
  | none => some (es ++ [(key, .items [] t)])
  | some (.items init last) => some (replace key (.items (init ++ [last]) t) es)
  | some _ => none

def addSection (es : Entries) (s : Section) : Option Entries :=
  match s.header with
  | .table path =>
    match path.getLast? with
    | some key => descend (openTable key s.entries) path.dropLast es
    | none => none
  | .item path =>
    match path.getLast? with
    | some key => descend (openItem key s.entries) path.dropLast es
    | none => none
  | _ => insertAll s.entries es

mutual

def Node.toData : Node → Data
  | .value d => d
  | .table _ es => .record (entriesData es)
  | .items init last => .list (itemsData init ++ [.record (entriesData last)])

def entriesData : List (String × Node) → List (String × Data)
  | [] => []
  | (key, node) :: es => (key, node.toData) :: entriesData es

def itemsData : List (List (String × Node)) → List Data
  | [] => []
  | es :: rest => .record (entriesData es) :: itemsData rest

end

end Toml

/-- The tree a TOML text holds. A byte order mark in front of it does not count. -/
def ofToml? (s : String) : Option Data := do
  let cs := s.toList
  let cs := (Text.dropPrefix? ['\ufeff'] cs).getD cs
  let ls ← (Toml.lines cs).mapM Toml.line?
  let es ← (Toml.sections ls).foldlM Toml.addSection []
  some (.record (Toml.entriesData es))

end FormRules.Data
