import FormRules.Proofs.Message.Rendering
import Mathlib.Data.List.Forall2
import Mathlib.Data.List.Nodup

/-!
# Valid configurations

`Valid` says what a configuration has to be like, without going through the errors. A form is
built from exactly these, and has one field for each specification, in order.
-/

namespace FormRules.Proofs.Configuration
open Form Message

def hasContainer (o : DisplayOptions) : Bool :=
  o.errorContainer.any fun id => !Text.isBlank id.toList

structure ValidDisplay (o : DisplayOptions) : Prop where
  formId : Text.isBlank o.formId.toList = false
  submitButtonId : Text.isBlank o.submitButtonId.toList = false
  oneWay : [hasContainer o, o.realTimeChecking, o.onBlurChecking].count true = 1

theorem isSome_container? (o : DisplayOptions) : o.container?.isSome = hasContainer o := by
  unfold DisplayOptions.container? hasContainer
  cases o.errorContainer with
  | none => rfl
  | some id => cases blank : Text.isBlank id.toList <;> simp [blank]

theorem isSome_errorDisplay?_iff {o : DisplayOptions} :
    o.errorDisplay?.isSome = true ↔
      [hasContainer o, o.realTimeChecking, o.onBlurChecking].count true = 1 := by
  rw [← isSome_container?]
  unfold DisplayOptions.errorDisplay?
  cases o.container? <;> cases o.realTimeChecking <;> cases o.onBlurChecking <;> simp

theorem requireText_eq_nil_iff {option value : String} :
    DisplayOptions.requireText option value = [] ↔ Text.isBlank value.toList = false := by
  unfold DisplayOptions.requireText
  cases Text.isBlank value.toList <;> simp

theorem check_eq_nil_iff {o : DisplayOptions} : o.check = [] ↔ ValidDisplay o := by
  have display : (if o.errorDisplay?.isNone then [ConfigError.errorDisplayMode] else []) = [] ↔
      o.errorDisplay?.isSome = true := by
    cases o.errorDisplay? <;> simp
  rw [DisplayOptions.check, List.append_eq_nil_iff, List.append_eq_nil_iff,
    requireText_eq_nil_iff, requireText_eq_nil_iff, display, isSome_errorDisplay?_iff]
  exact ⟨fun ⟨⟨form, button⟩, way⟩ => ⟨form, button, way⟩,
    fun valid => ⟨⟨valid.formId, valid.submitButtonId⟩, valid.oneWay⟩⟩

theorem idErrors_eq_nil_iff {seen : List String} {specs : List FieldSpec} :
    idErrors seen specs = [] ↔
      (∀ spec ∈ specs, Text.isBlank spec.id.toList = false ∧ spec.id ∉ seen) ∧
        (specs.map FieldSpec.id).Nodup := by
  induction specs generalizing seen with
  | nil => simp [idErrors]
  | cons spec specs ih =>
    rw [List.forall_mem_cons, List.map_cons, List.nodup_cons, idErrors]
    split
    · rename_i blank
      simp [blank]
    · rename_i filled
      rw [Bool.not_eq_true] at filled
      split
      · rename_i old
        have old' : spec.id ∈ seen := by simpa using old
        simp [old']
      · rename_i new
        have new' : spec.id ∉ seen := by simpa using new
        rw [ih]
        constructor
        · rintro ⟨later, distinct⟩
          refine ⟨⟨⟨filled, new'⟩, fun other mem => ⟨(later other mem).1, fun old =>
            (later other mem).2 (List.mem_cons_of_mem _ old)⟩⟩, ?_, distinct⟩
          intro mem
          obtain ⟨other, otherMem, same⟩ := List.mem_map.1 mem
          exact (later other otherMem).2 (same ▸ List.mem_cons_self)
        · rintro ⟨⟨-, later⟩, first, distinct⟩
          refine ⟨fun other mem => ⟨(later other mem).1, fun old => ?_⟩, distinct⟩
          rcases List.mem_cons.1 old with same | old
          · exact first (same ▸ List.mem_map_of_mem mem)
          · exact (later other mem).2 old

theorem clean_iff {specs : List FieldSpec} {spec : FieldSpec} :
    Clean specs spec ↔
      (∀ token ∈ Declaration.tokens spec.rules, ∃ rule, Rule.ofChars token = .ok rule) ∧
        ∀ rule, Declares spec rule → ∀ target, rule.target? = some target →
          Declared specs target := by
  constructor
  · intro clean
    refine ⟨fun token mem => ?_, ?_⟩
    · cases read : Rule.ofChars token with
      | ok rule => exact ⟨rule, rfl⟩
      | error cause => exact absurd (.unreadable read) (clean token mem _)
    · rintro rule ⟨token, mem, read⟩ target names
      by_contra unknown
      exact clean token mem _ (.unknownTarget read names unknown)
  · rintro ⟨readable, known⟩ token mem e error
    cases error with
    | unreadable read =>
      obtain ⟨rule, read'⟩ := readable token mem
      rw [read'] at read
      cases read
    | unknownTarget read names unknown => exact unknown (known _ ⟨token, mem, read⟩ _ names)

structure Valid (specs : List FieldSpec) (c : Catalog) (display : Option DisplayOptions) :
    Prop where
  display : ∀ o, display = some o → ValidDisplay o
  ids_filled : ∀ spec ∈ specs, Text.isBlank spec.id.toList = false
  ids_distinct : (specs.map FieldSpec.id).Nodup
  tokens : ∀ spec ∈ specs, ∀ token ∈ Declaration.tokens spec.rules,
    ∃ rule, Rule.ofChars token = .ok rule
  targets : ∀ spec ∈ specs, ∀ rule, Declares spec rule → ∀ target, rule.target? = some target →
    ∃ other ∈ specs, other.id = target
  messages : ∀ spec ∈ specs, ∀ rule, Declares spec rule →
    ∀ key ∈ MessageKey.ofRule rule.name, Renderable c key

theorem configErrors_eq_nil_iff_valid {specs : List FieldSpec} {c : Catalog}
    {display : Option DisplayOptions} :
    configErrors specs c display = [] ↔ Valid specs c display := by
  have options : displayErrors display = [] ↔ ∀ o, display = some o → ValidDisplay o := by
    cases display with
    | none => simp [displayErrors]
    | some o => simp [displayErrors, check_eq_nil_iff]
  simp only [configErrors_eq_nil_iff, options, idErrors_eq_nil_iff, clean_iff, checkRule_eq_nil_iff]
  constructor
  · rintro ⟨shown, ⟨ids, distinct⟩, fields⟩
    exact {
      display := shown
      ids_filled := fun spec mem => (ids spec mem).1
      ids_distinct := distinct
      tokens := fun spec mem => (fields spec mem).1.1
      targets := fun spec mem => (fields spec mem).1.2
      messages := fun spec mem => (fields spec mem).2 }
  · intro valid
    exact ⟨valid.display, ⟨fun spec mem => ⟨valid.ids_filled spec mem, List.not_mem_nil⟩,
      valid.ids_distinct⟩, fun spec mem =>
        ⟨⟨valid.tokens spec mem, valid.targets spec mem⟩, valid.messages spec mem⟩⟩

theorem ids_of_build {specs : List FieldSpec} {c : Catalog} {display : Option DisplayOptions}
    {form : Form} (built : build specs c display = .ok form) :
    form.fields.map Field.id = specs.map FieldSpec.id := by
  obtain ⟨-, rfl⟩ := build_eq_ok_iff.1 built
  exact List.map_map

theorem distinct_ids_of_build {specs : List FieldSpec} {c : Catalog}
    {display : Option DisplayOptions} {form : Form} (built : build specs c display = .ok form) :
    (form.fields.map Field.id).Nodup := by
  rw [ids_of_build built]
  exact (configErrors_eq_nil_iff_valid.1 (build_eq_ok_iff.1 built).1).ids_distinct

theorem field?_of_mem {specs : List FieldSpec} {c : Catalog} {display : Option DisplayOptions}
    {form : Form} (built : build specs c display = .ok form) {f : Field} (mem : f ∈ form.fields) :
    form.field? f.id = some f := by
  have distinct := distinct_ids_of_build built
  cases found : form.field? f.id with
  | none => simpa using List.find?_eq_none.1 found f mem
  | some g =>
    have named : g.id = f.id := by simpa using List.find?_some found
    rw [List.inj_on_of_nodup_map distinct (List.mem_of_find?_eq_some found) mem named]

theorem evaluateField?_of_mem {specs : List FieldSpec} {c : Catalog}
    {display : Option DisplayOptions} {form : Form} (built : build specs c display = .ok form)
    {f : Field} (mem : f ∈ form.fields) (s : Snapshot) :
    form.evaluateField? f.id s = some (f.evaluate s c) := by
  rw [evaluateField?, field?_of_mem built mem, catalog_of_build built]
  rfl

theorem evaluateField?_eq_some_iff {specs : List FieldSpec} {c : Catalog}
    {display : Option DisplayOptions} {form : Form} (built : build specs c display = .ok form)
    {id : String} {s : Snapshot} {verdict : Verdict} :
    form.evaluateField? id s = some verdict ↔
      ∃ f ∈ form.fields, f.id = id ∧ f.evaluate s c = verdict := by
  constructor
  · intro evaluated
    rw [evaluateField?, Option.map_eq_some_iff, catalog_of_build built] at evaluated
    obtain ⟨f, found, verdict⟩ := evaluated
    exact ⟨f, List.mem_of_find?_eq_some found, by simpa using List.find?_some found, verdict⟩
  · rintro ⟨f, mem, rfl, rfl⟩
    exact evaluateField?_of_mem built mem s

end FormRules.Proofs.Configuration
