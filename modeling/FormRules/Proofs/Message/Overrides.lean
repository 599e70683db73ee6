import FormRules.Message.Defaults
import FormRules.Wire.Catalog
import FormRules.Wire.Snapshot
import Mathlib.Data.List.Induction
import Mathlib.Data.List.Nodup

/-!
# The order of overrides

Of the templates that overrides give a key the last one stays. Names that are not the same can mean
the same key only if they are the two spellings of `required_checkbox` or of `required_radio`. So
overrides with distinct names can be applied in any order, unless both spellings of a key are there
with different templates.
-/

namespace FormRules.Proofs.Message
open Catalog Wire

variable {c : Catalog} {o : String × String} {os p : List (String × String)} {key : MessageKey}

/-! ## The template that stays -/

def templateFor? (key : MessageKey) (o : String × String) : Option String :=
  if MessageKey.ofName? o.1 = some key then some o.2 else none

def templatesFor (key : MessageKey) (os : List (String × String)) : List String :=
  os.filterMap (templateFor? key)

theorem template_override :
    (c.withOverrides [o]).template key = (templateFor? key o).or (c.template key) := by
  unfold templateFor?
  cases named : MessageKey.ofName? o.1 with
  | none => simp [withOverrides, named]
  | some k =>
    by_cases same : key = k
    · simp [withOverrides, named, Catalog.set, same]
    · simp [withOverrides, named, Catalog.set, same, Ne.symm same]

theorem template_withOverrides :
    (c.withOverrides os).template key = (templatesFor key os).getLast?.or (c.template key) := by
  induction os using List.reverseRecOn with
  | nil => rfl
  | append_singleton os o ih =>
    have later : c.withOverrides (os ++ [o]) = (c.withOverrides os).withOverrides [o] :=
      List.foldl_append
    rw [later, template_override, ih, templatesFor, templatesFor, List.filterMap_append,
      List.getLast?_append, List.filterMap_cons]
    cases templateFor? key o <;> simp

def OneTemplate (os : List (String × String)) : Prop :=
  ∀ key, ∀ t ∈ templatesFor key os, ∀ t' ∈ templatesFor key os, t = t'

theorem mem_templatesFor_iff {t : String} :
    t ∈ templatesFor key os ↔ ∃ name, (name, t) ∈ os ∧ MessageKey.ofName? name = some key := by
  simp only [templatesFor, List.mem_filterMap, templateFor?, Option.ite_none_right_eq_some,
    Option.some.injEq]
  constructor
  · rintro ⟨⟨name, t'⟩, mem, named, rfl⟩
    exact ⟨name, mem, named⟩
  · rintro ⟨name, mem, named⟩
    exact ⟨(name, t), mem, named, rfl⟩

theorem withOverrides_eq_of_perm (one : OneTemplate os) (perm : p.Perm os) :
    c.withOverrides p = c.withOverrides os := by
  ext1
  funext key
  have templates : (templatesFor key p).Perm (templatesFor key os) := perm.filterMap _
  -- the templates of a key are all the same, so in either order they are the same list
  have unordered (ts : List String) : ts.Pairwise fun _ _ => True :=
    List.pairwise_of_forall fun _ _ => trivial
  have same : templatesFor key p = templatesFor key os :=
    templates.eq_of_pairwise (fun t t' mem mem' _ _ => one key t (templates.subset mem) t' mem')
      (unordered _) (unordered _)
  rw [template_withOverrides, template_withOverrides, same]

theorem exists_perm_template {t : String} (mem : t ∈ templatesFor key os) :
    ∃ p, p.Perm os ∧ ∀ c : Catalog, (c.withOverrides p).template key = some t := by
  obtain ⟨name, mem, named⟩ := mem_templatesFor_iff.1 mem
  refine ⟨os.erase (name, t) ++ [(name, t)], ?_, fun c => ?_⟩
  · exact (List.perm_append_singleton _ _).trans (List.perm_cons_erase mem).symm
  · rw [template_withOverrides, templatesFor, List.filterMap_append]
    simp [templateFor?, named]

theorem withOverrides_perm_iff :
    (∀ p, p.Perm os → c.withOverrides p = c.withOverrides os) ↔ OneTemplate os := by
  constructor
  · intro same key t mem t' mem'
    obtain ⟨p, perm, last⟩ := exists_perm_template mem
    obtain ⟨p', perm', last'⟩ := exists_perm_template mem'
    have eq : c.withOverrides p = c.withOverrides p' := (same p perm).trans (same p' perm').symm
    exact Option.some.inj (by rw [← last c, eq, last' c])
  · exact fun one p perm => withOverrides_eq_of_perm one perm

/-! ## Spellings -/

def spellings : MessageKey → List String
  | .requiredCheckbox => ["required_checkbox", "requiredCheckbox"]
  | .requiredRadio => ["required_radio", "requiredRadio"]
  | key => [key.name]

theorem mem_spellings_of_ofName? {name : String} (named : MessageKey.ofName? name = some key) :
    name ∈ spellings key := by
  simp only [MessageKey.ofName?, Bool.or_eq_true, beq_iff_eq] at named
  split at named
  · rename_i same
    cases named
    exact List.mem_singleton.2 same
  split at named
  · rename_i same
    cases named
    simpa [spellings] using same
  split at named
  · rename_i same
    cases named
    simpa [spellings] using same
  split at named
  · cases named
  · rename_i r found
    cases named
    exact List.mem_singleton.2 (RuleName.name_of_ofName? found).symm
  · cases named

def Agree (os : List (String × String)) (name other : String) : Prop :=
  ∀ t t', (name, t) ∈ os → (other, t') ∈ os → t = t'

def SpellingsAgree (os : List (String × String)) : Prop :=
  Agree os "required_checkbox" "requiredCheckbox" ∧ Agree os "required_radio" "requiredRadio"

theorem Agree.of_mem {name other : String} (agree : Agree os name other) {a b : String}
    (differ : a ≠ b) (mem : a ∈ [name, other]) (mem' : b ∈ [name, other]) : Agree os a b := by
  simp only [List.mem_cons, List.not_mem_nil, or_false] at mem mem'
  rcases mem with rfl | rfl
  · rcases mem' with rfl | rfl
    · exact absurd rfl differ
    · exact agree
  · rcases mem' with rfl | rfl
    · exact fun t t' first second => (agree t' t second first).symm
    · exact absurd rfl differ

theorem eq_of_distinct (distinct : (os.map Prod.fst).Nodup) {name t t' : String}
    (mem : (name, t) ∈ os) (mem' : (name, t') ∈ os) : t = t' := by
  have same := List.inj_on_of_nodup_map distinct mem mem' rfl
  exact congrArg Prod.snd same

theorem oneTemplate_iff (distinct : (os.map Prod.fst).Nodup) :
    OneTemplate os ↔ SpellingsAgree os := by
  constructor
  · intro one
    constructor
    · intro t t' mem mem'
      exact one .requiredCheckbox t (mem_templatesFor_iff.2 ⟨_, mem, rfl⟩) t'
        (mem_templatesFor_iff.2 ⟨_, mem', rfl⟩)
    · intro t t' mem mem'
      exact one .requiredRadio t (mem_templatesFor_iff.2 ⟨_, mem, rfl⟩) t'
        (mem_templatesFor_iff.2 ⟨_, mem', rfl⟩)
  · rintro ⟨checkbox, radio⟩ key t mem t' mem'
    obtain ⟨name, given, named⟩ := mem_templatesFor_iff.1 mem
    obtain ⟨other, given', named'⟩ := mem_templatesFor_iff.1 mem'
    have spelt := mem_spellings_of_ofName? named
    have spelt' := mem_spellings_of_ofName? named'
    by_cases same : name = other
    · exact eq_of_distinct distinct given (same ▸ given')
    · cases key with
      | requiredCheckbox => exact checkbox.of_mem same spelt spelt' t t' given given'
      | requiredRadio => exact radio.of_mem same spelt spelt' t t' given given'
      | _ =>
        have one := (List.mem_singleton.1 spelt).trans (List.mem_singleton.1 spelt').symm
        exact absurd one same

/-! ## Language files -/

/-- The templates of a language file, the last one for each name. Nothing is said about the order
in which they are applied. -/
def languageFile? (s : String) : Option (List (String × String)) :=
  (Data.ofJson? s).bind fun d => (entries? text? d).map lastOfEach

theorem withOverrides_cons_of_mem (later : o.1 ∈ os.map Prod.fst) :
    c.withOverrides (o :: os) = c.withOverrides os := by
  ext1
  funext key
  have first : c.withOverrides (o :: os) = (c.withOverrides [o]).withOverrides os := rfl
  rw [first, template_withOverrides, template_override, template_withOverrides]
  cases last : (templatesFor key os).getLast? with
  | some t => rfl
  | none =>
    obtain ⟨o', mem, same⟩ := List.mem_map.1 later
    have unset : templateFor? key o' = none :=
      List.filterMap_eq_nil_iff.1 (List.getLast?_eq_none_iff.1 last) o' mem
    have silent : templateFor? key o = none := by simpa [templateFor?, same] using unset
    rw [silent]
    rfl

theorem withOverrides_lastOfEach : c.withOverrides (lastOfEach os) = c.withOverrides os := by
  induction os generalizing c with
  | nil => rfl
  | cons o os ih =>
    unfold lastOfEach
    split
    · rename_i later
      obtain ⟨o', mem, same⟩ := List.any_eq_true.1 later
      rw [ih, withOverrides_cons_of_mem (List.mem_map.2 ⟨o', mem, beq_iff_eq.1 same⟩)]
    · exact ih

theorem ofJson?_eq (s : String) :
    Catalog.ofJson? s = (languageFile? s).map Catalog.empty.withOverrides := by
  unfold Catalog.ofJson? languageFile?
  cases Data.ofJson? s with
  | none => rfl
  | some d =>
    cases d with
    | record es =>
      show (entries? text? (.record es)).bind (fun os => some (Catalog.empty.withOverrides os)) =
        ((entries? text? (.record es)).map lastOfEach).map Catalog.empty.withOverrides
      cases entries? text? (.record es) with
      | none => rfl
      | some os => exact congrArg some withOverrides_lastOfEach.symm
    | _ => rfl

theorem distinct_of_languageFile? {s : String} (file : languageFile? s = some os) :
    (os.map Prod.fst).Nodup := by
  obtain ⟨d, -, entries⟩ := Option.bind_eq_some_iff.1 file
  obtain ⟨given, -, rfl⟩ := Option.map_eq_some_iff.1 entries
  exact nodup_lastOfEach

/-- Overrides with distinct names give the same catalog in every order exactly if the two spellings
of a key come with the same template. So it is with the templates of a language file. -/
theorem any_order_iff_spellings_agree (os : List (String × String)) :
    ((os.map Prod.fst).Nodup → ∀ c : Catalog,
      ((∀ p, p.Perm os → c.withOverrides p = c.withOverrides os) ↔ SpellingsAgree os)) ∧
    ∀ s, languageFile? s = some os → (os.map Prod.fst).Nodup ∧
      ((∀ p, p.Perm os → Catalog.ofJson? s = some (Catalog.empty.withOverrides p)) ↔
        SpellingsAgree os) := by
  constructor
  · intro distinct c
    rw [withOverrides_perm_iff, oneTemplate_iff distinct]
  · intro s file
    have distinct := distinct_of_languageFile? file
    refine ⟨distinct, ?_⟩
    rw [← oneTemplate_iff distinct, ← withOverrides_perm_iff (c := Catalog.empty), ofJson?_eq, file]
    exact forall₂_congr fun p _ => by simp [eq_comm]

def bothSpellings (first second : String) : List (String × String) :=
  [("required_checkbox", first), ("requiredCheckbox", second)]

def bothSpellingsFile (first second : String) : String :=
  "\x7b\"required_checkbox\":\"" ++ first ++ "\",\"requiredCheckbox\":\"" ++ second ++ "\"\x7d"

theorem same_in_any_order :
    languageFile? (bothSpellingsFile "a" "a") = some (bothSpellings "a" "a") ∧
    ∀ p, p.Perm (bothSpellings "a" "a") →
      Catalog.ofJson? (bothSpellingsFile "a" "a") = some (Catalog.empty.withOverrides p) ∧
      Catalog.english.withOverrides p = Catalog.english.withOverrides (bothSpellings "a" "a") := by
  have file : languageFile? (bothSpellingsFile "a" "a") = some (bothSpellings "a" "a") := by
    decide +kernel
  have agree : SpellingsAgree (bothSpellings "a" "a") := by
    simp [SpellingsAgree, Agree, bothSpellings]
  obtain ⟨list, json⟩ := any_order_iff_spellings_agree (bothSpellings "a" "a")
  obtain ⟨distinct, any⟩ := json _ file
  exact ⟨file, fun p perm => ⟨any.2 agree p perm, (list distinct .english).2 agree p perm⟩⟩

theorem last_spelling_decides :
    ((bothSpellings "a" "b").map Prod.fst).Nodup ∧
    languageFile? (bothSpellingsFile "a" "b") = some (bothSpellings "a" "b") ∧
    (bothSpellings "a" "b").reverse.Perm (bothSpellings "a" "b") ∧
    Catalog.empty.withOverrides (bothSpellings "a" "b").reverse ≠
      Catalog.empty.withOverrides (bothSpellings "a" "b") := by
  refine ⟨by decide, by decide +kernel, List.reverse_perm _, fun same => ?_⟩
  have template := congrArg (fun c => c.template .requiredCheckbox) same
  exact absurd template (by decide)

end FormRules.Proofs.Message
