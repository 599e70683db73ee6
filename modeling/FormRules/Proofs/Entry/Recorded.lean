import FormRules.Command.Run
import FormRules.Message.Defaults
import FormRules.Proofs.Configuration.Validity
import FormRules.Proofs.Entry.Edits
import Mathlib.Data.List.Nodup

/-!
# Recorded inputs

A value that is recorded for a field replaces the value and leaves the checked flag, a state
replaces both. Inputs for different fields do not meet, so as long as no field has two of them they
can be applied in any order.
-/

namespace FormRules.Proofs.Entry
open FormValues Proofs.Configuration

variable {v w : FormValues} {id other : String} {state : FieldState} {input : FieldInput}
  {inputs p : List (String × FieldInput)}

def entered (before : Option FieldState) : FieldInput → FieldState
  | .value s => { value := s, checked := (before.map FieldState.checked).getD false }
  | .state state => state

theorem state?_set_self : (v.set id state).state? id = some state :=
  Std.ExtTreeMap.getElem?_insert_self

theorem eq_of_state? (states : ∀ id, v.state? id = w.state? id) (members : v.members = w.members) :
    v = w := by
  cases v with
  | mk vStates vMembers =>
    cases w with
    | mk wStates wMembers =>
      have same : vStates = wStates := Std.ExtTreeMap.ext_getElem? states
      rw [same]
      exact congrArg (FormValues.mk wStates) members

theorem applyInput_eq_set (v : FormValues) (id : String) (input : FieldInput) :
    v.applyInput id input = v.set id (entered (v.state? id) input) := by
  cases input with
  | value s => simp only [applyInput, setValue, update, entered, checked_getD]
  | state state => rfl

theorem state?_applyInput_self :
    (v.applyInput id input).state? id = some (entered (v.state? id) input) := by
  rw [applyInput_eq_set, state?_set_self]

theorem set_comm (ne : id ≠ other) (a b : FieldState) :
    (v.set id a).set other b = (v.set other b).set id a := by
  refine eq_of_state? (fun k => ?_) rfl
  by_cases eq : k = id
  · subst eq
    rw [state?_set_of_ne ne, state?_set_self, state?_set_self]
  · by_cases eq' : k = other
    · subst eq'
      rw [state?_set_self, state?_set_of_ne eq, state?_set_self]
    · rw [state?_set_of_ne eq', state?_set_of_ne eq, state?_set_of_ne eq, state?_set_of_ne eq']

theorem applyInput_comm (ne : id ≠ other) (i j : FieldInput) :
    (v.applyInput id i).applyInput other j = (v.applyInput other j).applyInput id i := by
  simp only [applyInput_eq_set, state?_set_of_ne ne, state?_set_of_ne ne.symm]
  exact set_comm ne _ _

theorem apply_append {more : List (String × FieldInput)} :
    v.apply (inputs ++ more) = (v.apply inputs).apply more :=
  List.foldl_append

theorem apply_cons : v.apply ((id, input) :: inputs) = (v.applyInput id input).apply inputs :=
  rfl

theorem state?_apply_of_mem (distinct : (inputs.map Prod.fst).Nodup) (mem : (id, input) ∈ inputs) :
    (v.apply inputs).state? id = some (entered (v.state? id) input) := by
  obtain ⟨before, after, rfl⟩ := List.append_of_mem mem
  rw [List.map_append, List.map_cons, List.nodup_middle, List.nodup_cons, List.mem_append,
    not_or] at distinct
  rw [apply_append, apply_cons, state?_apply_of_not_mem distinct.1.2, state?_applyInput_self,
    state?_apply_of_not_mem distinct.1.1]

theorem apply_eq_of_perm (distinct : (inputs.map Prod.fst).Nodup) (perm : p.Perm inputs) :
    v.apply p = v.apply inputs := by
  apply List.Perm.foldl_eq' perm
  rintro ⟨id, i⟩ mem ⟨other, j⟩ mem' w
  -- an input is also compared with itself, and with no other one for the same field
  by_cases same : id = other
  · have one : (id, i) = (other, j) :=
      List.inj_on_of_nodup_map distinct (perm.subset mem) (perm.subset mem') same
    rw [one]
  · exact applyInput_comm same i j

/-- What is in a form after some inputs, and what is left of before. -/
structure Entered (before : FormValues) (inputs : List (String × FieldInput))
    (after : FormValues) : Prop where
  value : ∀ id s, (id, .value s) ∈ inputs → after.state? id =
    some { value := s, checked := ((before.state? id).map FieldState.checked).getD false }
  state : ∀ id state, (id, .state state) ∈ inputs → after.state? id = some state
  other : ∀ id, id ∉ inputs.map Prod.fst → after.state? id = before.state? id
  members : after.members = before.members

theorem entered_apply (distinct : (inputs.map Prod.fst).Nodup) (v : FormValues) :
    Entered v inputs (v.apply inputs) where
  value _ _ mem := state?_apply_of_mem distinct mem
  state _ _ mem := state?_apply_of_mem distinct mem
  other _ unnamed := state?_apply_of_not_mem unnamed
  members := apply_members v inputs

theorem distinct_of_valuesOfJson? {s : String} (file : Command.valuesOfJson? s = some inputs) :
    (inputs.map Prod.fst).Nodup := by
  obtain ⟨d, -, read⟩ := Option.bind_eq_some_iff.1 file
  obtain ⟨entries, -, rfl⟩ := Option.map_eq_some_iff.1 read
  exact Wire.nodup_lastOfEach

theorem inputs_in_any_order (inputs : List (String × FieldInput)) :
    ((inputs.map Prod.fst).Nodup →
      (∀ v : FormValues, Entered v inputs (v.apply inputs)) ∧
      ∀ p, p.Perm inputs → (∀ v : FormValues, v.apply p = v.apply inputs) ∧
        ∀ specs c display form, Form.build specs c display = .ok form →
          form.evaluate (form.values.apply p).snapshot =
            form.evaluate (form.values.apply inputs).snapshot) ∧
    ∀ s, Command.valuesOfJson? s = some inputs → (inputs.map Prod.fst).Nodup := by
  refine ⟨fun distinct => ⟨entered_apply distinct, ?_⟩, fun _ => distinct_of_valuesOfJson?⟩
  intro p perm
  have same (v : FormValues) : v.apply p = v.apply inputs := apply_eq_of_perm distinct perm
  refine ⟨same, ?_⟩
  intro specs c display form _
  rw [same form.values]

def signup : List FieldSpec :=
  [{ id := "name", rules := "required|alpha" },
    { id := "terms", kind := .checkbox, rules := "required" }]

def signupForm : Form where
  fields := signup.map fieldOf
  catalog := .english
  display := none

def nameAndTerms : List (String × FieldInput) :=
  [("name", .value "Ada"), ("terms", .state { checked := true })]

theorem name_and_terms_in_any_order :
    Command.valuesOfJson? "\x7b\"name\":\"Ada\",\"terms\":\x7b\"checked\":true\x7d\x7d" =
      some nameAndTerms ∧
    Form.build signup .english none = .ok signupForm ∧
    (∀ p, p.Perm nameAndTerms →
      (signupForm.evaluate (signupForm.values.apply p).snapshot).isValid = true) ∧
    ∀ v : FormValues, v.state? "name" = some { checked := true } →
      (v.apply nameAndTerms.reverse).state? "name" = some { value := "Ada", checked := true } := by
  obtain ⟨any, file⟩ := inputs_in_any_order nameAndTerms
  have read : Command.valuesOfJson?
      "\x7b\"name\":\"Ada\",\"terms\":\x7b\"checked\":true\x7d\x7d" = some nameAndTerms := by
    decide +kernel
  have built : Form.build signup .english none = .ok signupForm :=
    build_eq_ok_iff.2 ⟨by decide +kernel, rfl⟩
  obtain ⟨entered, order⟩ := any (file _ read)
  refine ⟨read, built, ?_, ?_⟩
  · intro p perm
    rw [(order p perm).2 signup .english none signupForm built]
    decide +kernel
  · intro v before
    have name : ("name", .value "Ada") ∈ nameAndTerms := List.mem_cons_self
    rw [(order _ (List.reverse_perm _)).1 v, (entered v).value "name" "Ada" name, before]
    rfl

end FormRules.Proofs.Entry
