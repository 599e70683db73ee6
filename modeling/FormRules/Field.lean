import FormRules.Rule.Declaration

/-!
Fields of a form: as specified, and with their rules read.
-/

namespace FormRules

inductive FieldKind where
  | text
  | checkbox
  | radio
  | select
deriving DecidableEq, Repr

namespace FieldKind

def all : List FieldKind :=
  [text, checkbox, radio, select]

def name : FieldKind → String
  | text => "text"
  | checkbox => "checkbox"
  | radio => "radio"
  | select => "select"

def ofName? (s : String) : Option FieldKind :=
  all.find? fun k => k.name == s

def isCheckable : FieldKind → Bool
  | text => false
  | checkbox => true
  | radio => true
  | select => false

end FieldKind

structure FieldSpec where
  id : String
  label : Option String := none
  kind : FieldKind := .text
  group : Option String := none
  rules : String := ""
deriving DecidableEq, Repr

structure Field where
  id : String
  label : String
  kind : FieldKind
  declaredGroup : Option String
  rules : List Rule
deriving DecidableEq, Repr

namespace Field

/-- The group a field belongs to: the declared one, or one named like the field. -/
def group (f : Field) : String :=
  f.declaredGroup.getD f.id

/-- What messages call a field that has no label. -/
def defaultLabel : String := "\x7blabel\x7d"

def labelOf (label : Option String) : String :=
  match label with
  | none => defaultLabel
  | some s => if Text.isBlank s.toList then defaultLabel else Text.trimmed s

/-- The error of a rule that compares with a field that is not there. -/
def unknownTarget? (isKnown : String → Bool) (field : String) (rule : Rule) :
    Option ConfigError :=
  match rule.target? with
  | none => none
  | some target => if isKnown target then none else some (.unknownTarget field rule.name target)

/-- The field a specification describes, or all that is wrong with its rules: tokens first, then
targets. -/
def ofSpec (isKnown : String → Bool) (spec : FieldSpec) : Except (List ConfigError) Field :=
  let (rules, unread) := Declaration.rulesAndErrors spec.id spec.rules
  let errors := unread ++ rules.filterMap (unknownTarget? isKnown spec.id)
  if errors.isEmpty then
    .ok {
      id := spec.id
      label := labelOf spec.label
      kind := spec.kind
      declaredGroup := spec.group
      rules }
  else .error errors

/-- All that is wrong with the rules of a field, each token being read once. -/
def specErrors (isKnown : String → Bool) (spec : FieldSpec) : List ConfigError :=
  let results := Declaration.readTokens spec.id spec.rules
  errorsOf results ++ (valuesOf results).filterMap (unknownTarget? isKnown spec.id)

theorem ofSpec_eq (isKnown : String → Bool) (spec : FieldSpec) :
    ofSpec isKnown spec =
      if (specErrors isKnown spec).isEmpty then
        .ok {
          id := spec.id
          label := labelOf spec.label
          kind := spec.kind
          declaredGroup := spec.group
          rules := valuesOf (Declaration.readTokens spec.id spec.rules) }
      else .error (specErrors isKnown spec) := by
  simp only [ofSpec, Declaration.rulesAndErrors_eq]
  rfl

end Field

end FormRules
