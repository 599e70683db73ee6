import FormRules.Message.Catalog
import FormRules.Proofs.Message.Layout
import FormRules.Proofs.Message.Template

/-!
# A single pass

Filling a template puts the values between its literals, whatever they contain, and fails at the
first placeholder without a value. The check of a rule looks at the same placeholders.
-/

namespace FormRules.Proofs.Message
open Template

variable {template name : String} {values : String → Option String} {value : String → String}
  {ps : List Piece}

theorem mapM_fill_eq_ok
    (given : ∀ name ∈ (Layout.ofPieces ps).names, values name = some (value name)) :
    ∃ filled, ps.mapM (Piece.fill values) = .ok filled ∧
      filled.flatten = (Layout.ofPieces ps).filled value := by
  induction ps with
  | nil => exact ⟨[], rfl, rfl⟩
  | cons piece ps ih =>
    cases piece with
    | literal cs =>
      rw [Layout.ofPieces, Layout.names_prepend] at given
      obtain ⟨filled, rest, flat⟩ := ih given
      refine ⟨cs :: filled, ?_, ?_⟩
      · rw [List.mapM_cons, rest]
        rfl
      · rw [List.flatten_cons, flat, Layout.ofPieces, Layout.filled_prepend]
    | placeholder name =>
      rw [Layout.ofPieces, Layout.names, List.forall_mem_cons] at given
      obtain ⟨filled, rest, flat⟩ := ih given.2
      refine ⟨(value (String.ofList name)).toList :: filled, ?_, ?_⟩
      · rw [List.mapM_cons, rest, Piece.fill, given.1]
        rfl
      · rw [List.flatten_cons, flat]
        rfl

theorem mapM_fill_eq_error {present later : List String}
    (names : (Layout.ofPieces ps).names = present ++ name :: later)
    (given : ∀ n ∈ present, (values n).isSome = true) (missing : values name = none) :
    ps.mapM (Piece.fill values) = .error (.missingValue name) := by
  induction ps generalizing present with
  | nil => simp [Layout.ofPieces, Layout.names] at names
  | cons piece ps ih =>
    cases piece with
    | literal cs =>
      rw [Layout.ofPieces, Layout.names_prepend] at names
      rw [List.mapM_cons, ih names given]
      rfl
    | placeholder first =>
      rw [Layout.ofPieces, Layout.names] at names
      cases present with
      | nil =>
        obtain ⟨rfl, -⟩ := List.cons.inj names
        rw [List.mapM_cons, Piece.fill, missing]
        rfl
      | cons n present =>
        obtain ⟨rfl, following⟩ := List.cons.inj names
        rw [List.forall_mem_cons, Option.isSome_iff_exists] at given
        obtain ⟨⟨found, has⟩, others⟩ := given
        rw [List.mapM_cons, Piece.fill, has, ih following others]
        rfl

theorem format_eq_ok (given : ∀ name ∈ (layout template).names, values name = some (value name)) :
    format template values = .ok (String.ofList ((layout template).filled value)) := by
  obtain ⟨filled, all, flat⟩ := mapM_fill_eq_ok given
  rw [format, all, layout, ← flat]
  rfl

theorem format_eq_error {present later : List String}
    (names : (layout template).names = present ++ name :: later)
    (given : ∀ n ∈ present, (values n).isSome = true) (missing : values name = none) :
    format template values = .error (.missingValue name) := by
  rw [format, mapM_fill_eq_error names given missing]
  rfl

def inBraces (name : String) : String :=
  "\x7b" ++ name ++ "\x7d"

theorem filled_inBraces (d : Layout) : d.filled inBraces = d.text := by
  induction d with
  | last literal => rfl
  | cut literal name rest ih => simp [Layout.filled, Layout.text, inBraces, ih]

variable {k : Catalog} {key : MessageKey} {field : String} {r : Rule}

theorem unknownPlaceholder_mem_checkTemplate {other : MessageKey} :
    .unknownPlaceholder key name ∈ Catalog.checkTemplate other template ↔
      key = other ∧ key.isStatic = false ∧ name ∈ placeholders template ∧
        name ∉ key.placeholders := by
  unfold Catalog.checkTemplate
  split
  · rename_i static
    constructor
    · nofun
    · rintro ⟨rfl, varies, -⟩
      rw [static] at varies
      cases varies
  · rename_i varies
    rw [Bool.not_eq_true] at varies
    simp only [List.mem_map, List.mem_filter, ConfigError.unknownPlaceholder.injEq,
      Bool.not_eq_true', List.contains_eq_mem, decide_eq_false_iff_not]
    constructor
    · rintro ⟨_, ⟨used, unknown⟩, rfl, rfl⟩
      exact ⟨rfl, varies, used, unknown⟩
    · rintro ⟨rfl, -, used, unknown⟩
      exact ⟨name, ⟨used, unknown⟩, rfl, rfl⟩

theorem unknownPlaceholder_mem_checkRule (found : k.template key = some template)
    (emits : key ∈ MessageKey.ofRule r.name) (varies : key.isStatic = false) :
    .unknownPlaceholder key name ∈ k.checkRule field r ↔
      name ∈ placeholders template ∧ name ∉ key.placeholders := by
  rw [Catalog.checkRule, List.mem_flatMap]
  constructor
  · rintro ⟨other, -, reported⟩
    cases other_found : k.template other with
    | none => simp [other_found] at reported
    | some used =>
      rw [other_found, unknownPlaceholder_mem_checkTemplate] at reported
      obtain ⟨rfl, -, unknown⟩ := reported
      rw [found, Option.some.injEq] at other_found
      rwa [other_found]
  · intro unknown
    refine ⟨key, emits, ?_⟩
    rw [found, unknownPlaceholder_mem_checkTemplate]
    exact ⟨rfl, varies, unknown⟩

theorem admitted_iff : (∀ name ∈ placeholders template, name ∈ key.placeholders) ↔
    ∀ values : String → Option String,
      (∀ name, (values name).isSome = true ↔ name ∈ key.placeholders) →
        ∃ text, format template values = .ok text := by
  constructor
  · intro known values exact_
    exact (format_isOk_iff template values).2 fun name used => (exact_ name).2 (known name used)
  · intro fills name used
    -- the values that a rule supplies, and no others
    let values (name : String) : Option String :=
      if name ∈ key.placeholders then some name else none
    have exact_ (name : String) : (values name).isSome = true ↔ name ∈ key.placeholders := by
      by_cases known : name ∈ key.placeholders <;> simp [values, known]
    exact (exact_ name).1 ((format_isOk_iff template values).1 (fills values exact_) name used)

theorem checkRule_congr {template' : String}
    (same : placeholders template' = placeholders template) :
    (k.set key template').checkRule field r = (k.set key template).checkRule field r := by
  unfold Catalog.checkRule
  congr 1
  funext other
  simp only [Catalog.set]
  split_ifs
  · simp only [Catalog.checkTemplate, same]
  · rfl

structure SinglePass (template : String) (d : Layout) : Prop where
  only_layout : ∀ d', IsLayout d' template ↔ d' = d
  placeholders : placeholders template = d.names
  fills : ∀ values value, (∀ name ∈ d.names, values name = some (value name)) →
    format template values = .ok (String.ofList (d.filled value))
  fails : ∀ values present name later, d.names = present ++ name :: later →
    (∀ n ∈ present, (values n).isSome = true) → values name = none →
      format template values = .error (.missingValue name)
  keeps_braces : format template (fun name => some (inBraces name)) = .ok template
  admits : ∀ (k : Catalog) key field (r : Rule), k.template key = some template →
    key ∈ MessageKey.ofRule r.name → key.isStatic = false →
      ((∀ name, .unknownPlaceholder key name ∉ k.checkRule field r) ↔
        ∀ values : String → Option String,
          (∀ name, (values name).isSome = true ↔ name ∈ key.placeholders) →
            ∃ text, format template values = .ok text)
  checks_placeholders : ∀ (k : Catalog) key field (r : Rule) template',
    Template.placeholders template' = Template.placeholders template →
      (k.set key template').checkRule field r = (k.set key template).checkRule field r

theorem template_has_one_layout (template : String) : ∃ d, SinglePass template d := by
  refine ⟨layout template, ?_⟩
  have read : (layout template).text = template.toList := (isLayout_iff.2 rfl).text
  constructor
  · exact fun d' => isLayout_iff
  · exact Layout.placeholders_eq
  · exact fun values value given => format_eq_ok given
  · exact fun values present name later names given missing => format_eq_error names given missing
  · rw [format_eq_ok fun _ _ => rfl, filled_inBraces, read, String.ofList_toList]
  · intro k key field r found emits varies
    rw [← admitted_iff]
    simp only [unknownPlaceholder_mem_checkRule found emits varies, not_and, not_not]
  · exact fun k key field r template' same => checkRule_congr same

def strayBraces : String :=
  "Take \x7ba\x7d\x7b\x7d of \x7b\x7bb\x7d or \x7b"

def strayMessages : Catalog :=
  Catalog.empty.set (.rule .required) strayBraces

/-- Braces that belong to no placeholder are kept, also behind one that stays open, and so are those
of the values. Neither placeholder is one of the rule, whose values do not fill the template. -/
theorem layout_of_stray_braces :
    ∃ d, SinglePass strayBraces d ∧
      d = .cut "Take ".toList "a".toList
        (.cut "\x7b\x7d of ".toList "\x7bb".toList (.last " or \x7b".toList)) ∧
      format strayBraces (fun name => some (if name = "a" then "\x7bb\x7d" else "\x7d")) =
        .ok "Take \x7bb\x7d\x7b\x7d of \x7d or \x7b" ∧
      format strayBraces (fun name => if name = "a" then some "tea" else none) =
        .error (.missingValue "\x7bb") ∧
      .unknownPlaceholder (.rule .required) "\x7bb" ∈ strayMessages.checkRule "id" .required ∧
      ¬∀ values : String → Option String, (∀ name, (values name).isSome = true ↔
        name ∈ (MessageKey.rule .required).placeholders) →
          ∃ text, format strayBraces values = .ok text := by
  obtain ⟨d, pass⟩ := template_has_one_layout strayBraces
  obtain rfl := (pass.only_layout _).1 (isLayout_iff.2 rfl)
  have refused : .unknownPlaceholder (.rule .required) "\x7bb" ∈
      strayMessages.checkRule "id" .required := by
    decide +kernel
  refine ⟨_, pass, by decide +kernel, ?_, ?_, refused, ?_⟩
  · rw [pass.fills _ (fun name => if name = "a" then "\x7bb\x7d" else "\x7d") fun _ _ => rfl]
    decide +kernel
  · exact pass.fails _ ["a"] _ [] (by decide +kernel) (by simp) rfl
  · rw [← pass.admits strayMessages (.rule .required) "id" .required rfl (by decide) rfl]
    exact fun known => known _ refused

end FormRules.Proofs.Message
