/-!
Message templates: text with placeholders in braces.

A brace opens a placeholder if a closing brace follows after at least one character; everything up
to the first closing brace is the name. All else is literal text.
-/

namespace FormRules

inductive Template.Piece where
  | literal (cs : List Char)
  | placeholder (name : List Char)
deriving DecidableEq, Repr

inductive FormatError where
  | missingValue (name : String)
deriving DecidableEq, Repr

def FormatError.message : FormatError → String
  | missingValue name => "no value supplied for placeholder \x7b" ++ name ++ "\x7d"

namespace Template

/-- The pieces of the text, after a brace and the characters of `opened`, last first, if any. -/
def scan : (opened : Option (List Char)) → List Char → List Piece
  | none, [] => []
  | some name, [] => [.literal ('{' :: name.reverse)]
  | none, c :: cs => if c = '{' then scan (some []) cs else .literal [c] :: scan none cs
  | some name, c :: cs =>
    if c ≠ '}' then scan (some (c :: name)) cs
    else if name.isEmpty then .literal ['{', '}'] :: scan none cs
    else .placeholder name.reverse :: scan none cs

def pieces (template : String) : List Piece :=
  scan none template.toList

def placeholders (template : String) : List String :=
  (pieces template).filterMap fun
    | .literal _ => none
    | .placeholder name => some (String.ofList name)

def Piece.fill (values : String → Option String) : Piece → Except FormatError (List Char)
  | literal cs => .ok cs
  | placeholder name =>
    match values (String.ofList name) with
    | some value => .ok value.toList
    | none => .error (.missingValue (String.ofList name))

def format (template : String) (values : String → Option String) : Except FormatError String := do
  let filled ← (pieces template).mapM (Piece.fill values)
  return String.ofList filled.flatten

end Template

end FormRules
