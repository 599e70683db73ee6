import FormRules.Text

/-!
Reading the arguments of the command line.
-/

namespace FormRules

inductive Command where
  | check (manifest : String)
  | eval (manifest values : String) (field : Option String)
  | rules
  | version
  | help
deriving DecidableEq, Repr

namespace Command

/-- An argument by its dashes. -/
inductive Argument where
  /-- Two dashes alone: what follows are no options. -/
  | separator
  | long (name : List Char) (value : Option (List Char))
  | short (letters : List Char)
  | plain (s : String)

def Argument.ofString (s : String) : Argument :=
  match s.toList with
  | ['-', '-'] => separator
  | '-' :: '-' :: cs =>
    match Text.splitOnce? '=' cs with
    | some (name, value) => long name (some value)
    | none => long cs none
  | '-' :: c :: cs => short (c :: cs)
  | _ => plain s

inductive Subcommand where
  | check
  | eval
  | rules
deriving DecidableEq, Repr

namespace Subcommand

def ofName? : String → Option Subcommand
  | "check" => some check
  | "eval" => some eval
  | "rules" => some rules
  | _ => none

def arity : Subcommand → Nat
  | check => 1
  | eval => 2
  | rules => 0

def takesField : Subcommand → Bool
  | eval => true
  | _ => false

end Subcommand

/-- What stands after a subcommand. -/
structure Operands where
  verbose : Bool := false
  positional : List String := []
  field : Option String := none

inductive Reading where
  | help
  | operands (o : Operands)

namespace Operands

def push? (s : Subcommand) (o : Operands) (operand : String) : Option Operands :=
  if operand.isEmpty || s.arity ≤ o.positional.length then none
  else some { o with positional := o.positional ++ [operand] }

def setVerbose? (o : Operands) : Option Operands :=
  if o.verbose then none else some { o with verbose := true }

def setField? (o : Operands) (field : String) : Option Operands :=
  if o.field.isSome then none else some { o with field := some field }

/-- The value of an option that is not in the argument itself. -/
def isValue (arg : String) : Bool :=
  match Argument.ofString arg with
  | .plain _ => true
  | _ => false

/-- What letters after one dash say. -/
inductive Letters where
  | done (o : Operands)
  | help
  | field (o : Operands)
  | fieldValue (o : Operands) (value : List Char)

def letters? (s : Subcommand) (o : Operands) : List Char → Option Letters
  | [] => some (.done o)
  | 'v' :: cs => do letters? s (← o.setVerbose?) cs
  | 'h' :: _ => some .help
  | 'f' :: cs =>
    if !s.takesField then none
    else
      match cs with
      | [] => some (.field o)
      | '=' :: value => some (.fieldValue o value)
      | value => some (.fieldValue o value)
  | _ => none

/-- Options and operands in any order. What is wrong before a request for help is refused. -/
def read? (s : Subcommand) (o : Operands) : List String → Option Reading
  | [] => some (.operands o)
  | arg :: args =>
    let withValue (o : Operands) : Option Reading :=
      match args with
      | value :: args =>
        if isValue value then (o.setField? value).bind fun o => read? s o args else none
      | [] => none
    match Argument.ofString arg with
    | .separator => (args.foldlM (push? s) o).map .operands
    | .plain operand => (o.push? s operand).bind fun o => read? s o args
    | .long name value =>
      if name == "verbose".toList && value.isNone then
        (o.setVerbose?).bind fun o => read? s o args
      else if name == "help".toList && value.isNone then some .help
      else if name == "field".toList && s.takesField then
        match value with
        | some v => (o.setField? (String.ofList v)).bind fun o => read? s o args
        | none => withValue o
      else none
    | .short cs =>
      match letters? s o cs with
      | none => none
      | some (.done o) => read? s o args
      | some .help => some .help
      | some (.field o) => withValue o
      | some (.fieldValue o v) =>
        (o.setField? (String.ofList v)).bind fun o => read? s o args

end Operands

def ofOperands? (s : Subcommand) (o : Operands) : Option Command :=
  match s, o.positional with
  | .check, [manifest] => some (.check manifest)
  | .eval, [manifest, values] => some (.eval manifest values o.field)
  | .rules, [] => some .rules
  | _, _ => none

def ofSubcommand? (s : Subcommand) (args : List String) : Option Command := do
  match ← Operands.read? s {} args with
  | .help => some .help
  | .operands o => ofOperands? s o

/-- The letters of options before the subcommand: what they ask for, or whether to go on. -/
def mainLetters? (verbose : Bool) : List Char → Option (Bool ⊕ Command)
  | [] => some (.inl verbose)
  | 'v' :: cs => if verbose then none else mainLetters? true cs
  | 'V' :: _ => some (.inr .version)
  | 'h' :: _ => some (.inr .help)
  | _ => none

def read? (verbose : Bool) : List String → Option Command
  | [] => none
  | arg :: args =>
    match Argument.ofString arg with
    | .separator => none
    | .long name none =>
      if name == "verbose".toList && !verbose then read? true args
      else if name == "version".toList then some .version
      else if name == "help".toList then some .help
      else none
    | .long _ (some _) => none
    | .short cs =>
      match mainLetters? verbose cs with
      | some (.inl verbose) => read? verbose args
      | some (.inr c) => some c
      | none => none
    | .plain "help" =>
      match args with
      | [] => some .help
      | [name] => if (Subcommand.ofName? name).isSome || name == "help" then some .help else none
      | _ => none
    | .plain name => do ofSubcommand? (← Subcommand.ofName? name) args

/-- The command that arguments ask for, if they ask for one. -/
def ofArguments? (args : List String) : Option Command :=
  read? false args

end Command

end FormRules
