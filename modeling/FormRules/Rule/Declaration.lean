import FormRules.ConfigError

/-!
The rule text of a field: tokens with bars between them. Blank tokens are passed over, and each of
the others is read on its own.
-/

namespace FormRules

def errorsOf {ε α : Type} (results : List (Except ε α)) : List ε :=
  results.filterMap fun
    | .error e => some e
    | .ok _ => none

def valuesOf {ε α : Type} (results : List (Except ε α)) : List α :=
  results.filterMap fun
    | .error _ => none
    | .ok a => some a

namespace Declaration

def tokens (declaration : String) : List (List Char) :=
  (Text.splitOn '|' declaration.toList).filter fun token => !Text.isBlank token

def readToken (field : String) (token : List Char) : Except ConfigError Rule :=
  match Rule.ofChars token with
  | .ok rule => .ok rule
  | .error cause => .error (.rule field (Rule.label token) cause)

def readTokens (field declaration : String) : List (Except ConfigError Rule) :=
  (tokens declaration).map (readToken field)

/-- All rules of a field's rule text, or all that is wrong with it. -/
def read (field declaration : String) : Except (List ConfigError) (List Rule) :=
  let results := readTokens field declaration
  if (errorsOf results).isEmpty then .ok (valuesOf results) else .error (errorsOf results)

/-- The rules of a rule text; tokens that are no rules are passed over. -/
def readable (declaration : String) : List Rule :=
  (tokens declaration).filterMap fun token => (Rule.ofChars token).toOption

/-- The rules of a field's rule text, and what is wrong with its other tokens. The rules are read
once more if there is anything. -/
def rulesAndErrors (field declaration : String) : List Rule × List ConfigError :=
  match Declaration.read field declaration with
  | .ok rules => (rules, [])
  | .error errors => (readable declaration, errors)

theorem valuesOf_readTokens (field declaration : String) :
    valuesOf (readTokens field declaration) = readable declaration := by
  rw [valuesOf, readTokens, List.filterMap_map, readable]
  congr 1
  funext token
  cases read : Rule.ofChars token <;> simp [readToken, read, Except.toOption]

/-- Reading the rules once more gives nothing else. -/
theorem rulesAndErrors_eq (field declaration : String) :
    rulesAndErrors field declaration =
      (valuesOf (readTokens field declaration), errorsOf (readTokens field declaration)) := by
  rw [rulesAndErrors, Declaration.read, ← valuesOf_readTokens field]
  cases errorsOf (readTokens field declaration) <;> rfl

end Declaration

end FormRules
