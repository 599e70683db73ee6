import FormRules.Form

/-!
# Filling in a form

A form is filled in by edits, one after the other. What the fields hold afterwards does not depend
on how they are grouped, and a field that no edit names holds what it held before.
-/

namespace FormRules.Proofs.Entry
open FormValues

inductive Reachable (form : Form) : FormValues → Prop where
  | untouched : Reachable form form.values
  | setValue {v} (id value : String) (before : Reachable form v) :
      Reachable form (v.setValue id value)
  | setChecked {v} (id : String) (checked : Bool) (before : Reachable form v) :
      Reachable form (v.setChecked id checked)
  | set {v} (id : String) (state : FieldState) (before : Reachable form v) :
      Reachable form (v.set id state)
  | apply {v} (inputs : List (String × FieldInput)) (before : Reachable form v) :
      Reachable form (v.apply inputs)

inductive Edit where
  | setValue (id value : String)
  | setChecked (id : String) (checked : Bool)
  | set (id : String) (state : FieldState)
  | apply (inputs : List (String × FieldInput))

namespace Edit

def run (v : FormValues) : Edit → FormValues
  | setValue id value => v.setValue id value
  | setChecked id checked => v.setChecked id checked
  | set id state => v.set id state
  | apply inputs => v.apply inputs

def ids : Edit → List String
  | setValue id _ => [id]
  | setChecked id _ => [id]
  | set id _ => [id]
  | apply inputs => inputs.map Prod.fst

end Edit

def fill (v : FormValues) (edits : List Edit) : FormValues :=
  edits.foldl Edit.run v

def named (edits : List Edit) : List String :=
  edits.flatMap Edit.ids

variable {v w : FormValues} {form : Form} {edit : Edit} {edits : List Edit} {id other : String}
  {state : FieldState} {input : FieldInput} {inputs : List (String × FieldInput)}

theorem reachable_run (before : Reachable form v) (edit : Edit) : Reachable form (edit.run v) := by
  cases edit with
  | setValue id value => exact .setValue id value before
  | setChecked id checked => exact .setChecked id checked before
  | set id state => exact .set id state before
  | apply inputs => exact .apply inputs before

theorem reachable_fill (before : Reachable form v) (edits : List Edit) :
    Reachable form (fill v edits) := by
  induction edits generalizing v with
  | nil => exact before
  | cons edit edits ih => exact ih (reachable_run before edit)

theorem fill_append (v : FormValues) (first later : List Edit) :
    fill v (first ++ later) = fill (fill v first) later :=
  List.foldl_append

theorem reachable_iff : Reachable form v ↔ ∃ edits, v = fill form.values edits := by
  constructor
  · intro reached
    have later {v : FormValues} (edit : Edit) (before : ∃ edits, v = fill form.values edits) :
        ∃ edits, edit.run v = fill form.values edits := by
      obtain ⟨edits, rfl⟩ := before
      exact ⟨edits ++ [edit], (fill_append _ edits [edit]).symm⟩
    induction reached with
    | untouched => exact ⟨[], rfl⟩
    | setValue id value before ih => exact later (.setValue id value) ih
    | setChecked id checked before ih => exact later (.setChecked id checked) ih
    | set id state before ih => exact later (.set id state) ih
    | apply inputs before ih => exact later (.apply inputs) ih
  · rintro ⟨edits, rfl⟩
    exact reachable_fill .untouched edits

/-! ## States and groups -/

theorem applyInput_members (v : FormValues) (id : String) (input : FieldInput) :
    (v.applyInput id input).members = v.members := by
  cases input <;> rfl

theorem apply_members (v : FormValues) (inputs : List (String × FieldInput)) :
    (v.apply inputs).members = v.members := by
  induction inputs generalizing v with
  | nil => rfl
  | cons input inputs ih =>
    have rest := ih (v.applyInput input.1 input.2)
    rwa [applyInput_members] at rest

theorem run_members (v : FormValues) (edit : Edit) : (edit.run v).members = v.members := by
  cases edit with
  | apply inputs => exact apply_members v inputs
  | _ => rfl

theorem fill_members (v : FormValues) (edits : List Edit) : (fill v edits).members = v.members := by
  induction edits generalizing v with
  | nil => rfl
  | cons edit edits ih =>
    have rest := ih (edit.run v)
    rwa [run_members] at rest

theorem update_states (same : v.states = w.states) (id : String) (f : FieldState → FieldState) :
    (v.update id f).states = (w.update id f).states := by
  simp only [update, FormValues.set, state?, same]

theorem applyInput_states (same : v.states = w.states) (id : String) (input : FieldInput) :
    (v.applyInput id input).states = (w.applyInput id input).states := by
  cases input with
  | value s => exact update_states same id _
  | state s => simp only [applyInput, FormValues.set, same]

theorem apply_states (same : v.states = w.states) (inputs : List (String × FieldInput)) :
    (v.apply inputs).states = (w.apply inputs).states := by
  induction inputs generalizing v w with
  | nil => exact same
  | cons input inputs ih => exact ih (applyInput_states same input.1 input.2)

theorem run_states (same : v.states = w.states) (edit : Edit) :
    (edit.run v).states = (edit.run w).states := by
  cases edit with
  | setValue id value => exact update_states same id _
  | setChecked id checked => exact update_states same id _
  | set id state => simp only [Edit.run, FormValues.set, same]
  | apply inputs => exact apply_states same inputs

theorem fill_states (same : v.states = w.states) (edits : List Edit) :
    (fill v edits).states = (fill w edits).states := by
  induction edits generalizing v w with
  | nil => exact same
  | cons edit edits ih => exact ih (run_states same edit)

theorem addMember_states (v : FormValues) (m : Membership) :
    (v.addMember m).states = v.states := by
  unfold addMember
  split <;> rfl

theorem forFields_states (fields : List Field) : (forFields fields).states = ∅ := by
  have added (v : FormValues) :
      (fields.foldl (fun v f => v.addMember (membershipOf f)) v).states = v.states := by
    induction fields generalizing v with
    | nil => rfl
    | cons f fields ih => rw [List.foldl_cons, ih, addMember_states]
  exact added {}

theorem fill_values_states (form form' : Form) (edits : List Edit) :
    (fill form'.values edits).states = (fill form.values edits).states := by
  apply fill_states
  rw [Form.values, Form.values, forFields_states, forFields_states]

theorem checked_getD (state? : Option FieldState) :
    (state?.getD {}).checked = (state?.map FieldState.checked).getD false := by
  cases state? <;> rfl

theorem field_snapshot_congr (same : v.states = w.states) :
    v.snapshot.field = w.snapshot.field := by
  funext id
  simp only [snapshot, state?, same]

/-! ## Fields that are not named -/

theorem state?_set_of_ne (ne : other ≠ id) : (v.set id state).state? other = v.state? other := by
  have insert := Std.ExtTreeMap.getElem?_insert (t := v.states) (k := id) (a := other) (v := state)
  simpa [state?, FormValues.set, Ne.symm ne] using insert

theorem state?_applyInput_of_ne (ne : other ≠ id) :
    (v.applyInput id input).state? other = v.state? other := by
  cases input with
  | value s => exact state?_set_of_ne ne
  | state s => exact state?_set_of_ne ne

theorem state?_apply_of_not_mem (unnamed : other ∉ inputs.map Prod.fst) :
    (v.apply inputs).state? other = v.state? other := by
  induction inputs generalizing v with
  | nil => rfl
  | cons input inputs ih =>
    rw [List.map_cons, List.mem_cons, not_or] at unnamed
    have rest : ((v.applyInput input.1 input.2).apply inputs).state? other =
        (v.applyInput input.1 input.2).state? other := ih unnamed.2
    exact rest.trans (state?_applyInput_of_ne unnamed.1)

theorem state?_run_of_not_mem (unnamed : other ∉ edit.ids) :
    (edit.run v).state? other = v.state? other := by
  cases edit with
  | apply inputs => exact state?_apply_of_not_mem unnamed
  | _ => exact state?_set_of_ne (List.ne_of_not_mem_cons unnamed)

theorem state?_fill_of_not_mem (unnamed : other ∉ named edits) :
    (fill v edits).state? other = v.state? other := by
  induction edits generalizing v with
  | nil => rfl
  | cons edit edits ih =>
    rw [named, List.flatMap_cons, List.mem_append, not_or] at unnamed
    have rest : (fill (edit.run v) edits).state? other = (edit.run v).state? other := ih unnamed.2
    exact rest.trans (state?_run_of_not_mem unnamed.1)

theorem group_fill_of_not_mem {name : String}
    (unnamed : ∀ m ∈ v.members, m.group = name → m.id ∉ named edits) :
    (fill v edits).group name = v.group name := by
  rw [FormValues.group, FormValues.group, fill_members]
  apply List.map_congr_left
  intro m mem
  rw [List.mem_filter, beq_iff_eq] at mem
  have untouched : (fill v edits).state? m.id = v.state? m.id :=
    state?_fill_of_not_mem (unnamed m mem.1 mem.2)
  simp only [member, untouched]

end FormRules.Proofs.Entry
