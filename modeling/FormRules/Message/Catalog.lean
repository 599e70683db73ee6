import FormRules.ConfigError
import FormRules.Message.Template

/-!
Catalogs of message templates: how they are put together, checked against a rule, and rendered.
-/

namespace FormRules

/-- At most one template for each key. -/
@[ext]
structure Catalog where
  template : MessageKey → Option String

namespace Catalog

def empty : Catalog where
  template _ := none

def set (c : Catalog) (key : MessageKey) (template : String) : Catalog where
  template k := if k = key then some template else c.template k

/-- Sets the templates of the names that are keys, in order; other names are passed over. -/
def withOverrides (c : Catalog) (overrides : List (String × String)) : Catalog :=
  overrides.foldl (fun c (name, template) =>
    match MessageKey.ofName? name with
    | some key => c.set key template
    | none => c) c

def entries (c : Catalog) : List (MessageKey × String) :=
  MessageKey.all.filterMap fun key => (c.template key).map (key, ·)

def size (c : Catalog) : Nat :=
  c.entries.length

instance : BEq Catalog :=
  ⟨fun c d => c.entries == d.entries⟩

/-! ## Checking -/

/-- The errors of one template: placeholders that have no value under its key. -/
def checkTemplate (key : MessageKey) (template : String) : List ConfigError :=
  if key.isStatic then []
  else
    ((Template.placeholders template).filter fun name => !key.placeholders.contains name).map
      (.unknownPlaceholder key)

/-- Whether every message of a rule is there and can be rendered. -/
def checkRule (c : Catalog) (field : String) (rule : Rule) : List ConfigError :=
  (MessageKey.ofRule rule.name).flatMap fun key =>
    match c.template key with
    | none => [.missingMessage field rule.name key]
    | some template => checkTemplate key template

/-! ## Rendering -/

/-- The message under a key. Where there is none it is the key's name, and where a placeholder has
no value it is the template. -/
def render (c : Catalog) (key : MessageKey) (values : String → Option String) : String :=
  match c.template key with
  | none => key.name
  | some template =>
    if key.isStatic then template
    else
      match Template.format template values with
      | .ok text => text
      | .error _ => template

end Catalog

end FormRules
