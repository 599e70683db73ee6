import FormRules.Message.Defaults
import FormRules.Proofs.Configuration.Validity
import FormRules.Proofs.Entry.Groups
import FormRules.Proofs.Reporting.Records
import Mathlib.Data.List.Nodup

/-!
# Registered fields

A form state has two halves: what the fields hold, and which fields form a group. Edits change the
first half and registrations the second. A group lists the fields that were registered under its
name as they were first registered, each with the checked flag that the field has.
-/

namespace FormRules.Proofs.Entry
open FormValues Proofs.Configuration Reporting

inductive Change where
  | edit (e : Edit)
  | register (m : Membership)

namespace Change

def run (v : FormValues) : Change → FormValues
  | edit e => e.run v
  | register m => v.addMember m

def edit? : Change → Option Edit
  | edit e => some e
  | register _ => none

def membership? : Change → Option Membership
  | edit _ => none
  | register m => some m

end Change

def evolve (v : FormValues) (changes : List Change) : FormValues :=
  changes.foldl Change.run v

def edits (changes : List Change) : List Edit :=
  changes.filterMap Change.edit?

def registered (changes : List Change) : List Membership :=
  changes.filterMap Change.membership?

variable {v : FormValues} {m : Membership} {name : String} {changes : List Change}
  {fields : List Field} {specs : List FieldSpec} {c : Catalog} {display : Option DisplayOptions}
  {form : Form}

theorem evolve_states (v : FormValues) (changes : List Change) :
    (evolve v changes).states = (fill v (edits changes)).states := by
  induction changes generalizing v with
  | nil => rfl
  | cons change changes ih =>
    cases change with
    | edit e => exact ih (e.run v)
    | register m => exact (ih (v.addMember m)).trans (fill_states (addMember_states v m) _)

/-! ## Members -/

def under (name : String) (ms : List Membership) : List Membership :=
  ms.filter fun m => m.group == name

theorem under_append {ms ns : List Membership} :
    under name (ms ++ ns) = under name ms ++ under name ns :=
  List.filter_append ..

theorem mem_map_under {ms : List Membership} {id : String} :
    id ∈ (under name ms).map Membership.id ↔ ∃ m ∈ ms, m.group = name ∧ m.id = id := by
  simp [under, and_assoc]

theorem under_addMember : under name (v.addMember m).members =
    extend Membership.id (under name v.members) (under name [m]) := by
  rw [members_addMember]
  -- a field that is registered under another name leaves this group alone, kept or not
  by_cases named : m.group = name
  · subst named
    have own : under m.group [m] = [m] := by simp [under]
    rw [own, extend, firsts]
    simp only [mem_map_under]
    split
    · simp [firsts]
    · rw [under_append, own]
      rfl
  · have other : under name [m] = [] := by simp [under, named]
    rw [other, extend_nil]
    split
    · rfl
    · rw [under_append, other, List.append_nil]

theorem under_evolve (v : FormValues) (changes : List Change) :
    under name (evolve v changes).members =
      extend Membership.id (under name v.members) (under name (registered changes)) := by
  induction changes generalizing v with
  | nil => exact extend_nil.symm
  | cons change changes ih =>
    cases change with
    | edit e =>
      have rest := ih (e.run v)
      rwa [run_members] at rest
    | register m =>
      have first : registered (.register m :: changes) = [m] ++ registered changes := rfl
      rw [first, under_append, extend_append, ← under_addMember]
      exact ih (v.addMember m)

def layout (fields : List Field) : List Change :=
  fields.map fun f => .register (membershipOf f)

theorem forFields_eq (fields : List Field) : forFields fields = evolve {} (layout fields) := by
  rw [evolve, layout, List.foldl_map]
  rfl

theorem registered_layout : registered (layout fields) = fields.map membershipOf := by
  rw [registered, layout, List.filterMap_map]
  exact congrFun List.filterMap_eq_map fields

theorem under_run (fields : List Field) (changes : List Change) :
    under name (evolve (forFields fields) changes).members =
      firsts Membership.id [] (under name (fields.map membershipOf ++ registered changes)) := by
  rw [under_evolve, forFields_eq, under_evolve, registered_layout, ← extend_append, ← under_append]
  rfl

/-! ## Groups as they are seen -/

def shown (s : Snapshot) (m : Membership) : GroupMember where
  id := m.id
  label := m.label
  kind := m.kind
  checked := ((s.field m.id).map FieldState.checked).getD false

theorem member_eq_shown (v : FormValues) (m : Membership) : v.member m = shown v.snapshot m := by
  simp only [member, shown, snapshot, checked_getD]

theorem group_eq (v : FormValues) (name : String) :
    v.snapshot.group name = (under name v.members).map (shown v.snapshot) := by
  show (v.members.filter fun m => m.group == name).map v.member = _
  rw [funext (member_eq_shown v)]
  rfl

theorem map_id_shown (s : Snapshot) (ms : List Membership) :
    (ms.map (shown s)).map GroupMember.id = ms.map Membership.id := by
  rw [List.map_map]
  rfl

/-- What the group of a name shows, if these fields were registered under that or another name. -/
structure GroupView (s : Snapshot) (ms : List Membership) (name : String) : Prop where
  members : s.group name = (firsts Membership.id [] (under name ms)).map (shown s)
  distinct : ((s.group name).map GroupMember.id).Nodup
  ids : ∀ id, id ∈ (s.group name).map GroupMember.id ↔ ∃ m ∈ ms, m.group = name ∧ m.id = id

theorem groupView_of_under {ms : List Membership}
    (first : under name v.members = firsts Membership.id [] (under name ms)) :
    GroupView v.snapshot ms name := by
  have members := group_eq v name
  rw [first] at members
  refine ⟨members, ?_, ?_⟩
  · rw [members, map_id_shown]
    exact nodup_map_firsts
  · intro id
    rw [members, map_id_shown, mem_map_firsts, mem_map_under]
    exact and_iff_left List.not_mem_nil

structure DeclaredGroups (form : Form) : Prop where
  group : ∀ name, form.values.snapshot.group name =
    (form.fields.filter fun f => f.group == name).map fun f =>
      { id := f.id, label := f.label, kind := f.kind, checked := false }
  one : ∀ f ∈ form.fields, ∀ name,
    f.id ∈ (form.values.snapshot.group name).map GroupMember.id ↔ name = f.group

theorem values_state? (form : Form) (id : String) : form.values.state? id = none := by
  rw [state?, Form.values, forFields_states]
  exact Std.ExtTreeMap.getElem?_empty

theorem declaredGroups_of_build (built : Form.build specs c display = .ok form) :
    DeclaredGroups form := by
  have distinct := distinct_ids_of_build built
  have groups : Groups form.fields form.values := Reachable.untouched.groups distinct
  have group (name : String) : form.values.snapshot.group name =
      (form.fields.filter fun f => f.group == name).map fun f =>
        { id := f.id, label := f.label, kind := f.kind, checked := false } := by
    rw [groups.group_eq]
    apply List.map_congr_left
    intro f _
    simp only [member, membershipOf, values_state?, Option.getD_none]
  refine ⟨group, ?_⟩
  intro f mem name
  rw [group, List.map_map]
  constructor
  · intro named
    obtain ⟨g, gMem, same⟩ := List.mem_map.1 named
    obtain ⟨gMem, grouped⟩ := List.mem_filter.1 gMem
    have eq : g = f := List.inj_on_of_nodup_map distinct gMem mem same
    rw [← eq]
    exact (beq_iff_eq.1 grouped).symm
  · rintro rfl
    exact List.mem_map.2 ⟨f, List.mem_filter.2 ⟨mem, beq_self_eq_true f.group⟩, rfl⟩

/-- However a form state came about, each group lists the fields that were registered under its
name once, in the order and as they were first registered, with the flags that the fields have.
Without fields the run starts from an empty state. -/
theorem group_view_of_run (fields : List Field) (changes : List Change) (name : String) :
    GroupView (evolve (forFields fields) changes).snapshot
      (fields.map membershipOf ++ registered changes) name ∧
    (evolve (forFields fields) changes).states = (fill {} (edits changes)).states ∧
    (∀ (v : FormValues) (e : Edit), (e.run v).members = v.members) ∧
    (∀ (v : FormValues) (m : Membership), (v.addMember m).states = v.states) ∧
    ∀ specs c display form, Form.build specs c display = .ok form → DeclaredGroups form := by
  refine ⟨groupView_of_under (under_run fields changes), ?_, run_members, addMember_states, ?_⟩
  · rw [evolve_states]
    exact fill_states (forFields_states fields) _
  · exact fun _ _ _ _ built => declaredGroups_of_build built

def red : FieldSpec where
  id := "red"
  label := some "Red"
  kind := .checkbox
  group := some "colors"

def blue : FieldSpec where
  id := "blue"
  label := some "Blue"
  kind := .checkbox
  group := some "colors"

def colors : List FieldSpec :=
  [red, blue]

def colorForm : Form where
  fields := colors.map fieldOf
  catalog := .english
  display := none

def recolored : List Change :=
  [.edit (.setChecked "blue" true),
    .register ⟨"colors", "blue", "Navy", .radio⟩,
    .edit (.set "green" { checked := true }),
    .register ⟨"colors", "green", "Green", .checkbox⟩,
    .register ⟨"paints", "red", "Red", .checkbox⟩]

theorem group_view_of_colors :
    Form.build colors .english none = .ok colorForm ∧
    (evolve colorForm.values recolored).snapshot.group "colors" =
      [⟨"red", "Red", .checkbox, false⟩, ⟨"blue", "Blue", .checkbox, true⟩,
        ⟨"green", "Green", .checkbox, true⟩] ∧
    ((evolve colorForm.values recolored).snapshot.group "paints").map GroupMember.id = ["red"] ∧
    ∀ name, "red" ∈ (colorForm.values.snapshot.group name).map GroupMember.id ↔ name = "colors" := by
  have built : Form.build colors .english none = .ok colorForm :=
    build_eq_ok_iff.2 ⟨by decide +kernel, rfl⟩
  have view (name : String) := group_view_of_run colorForm.fields recolored name
  have colored : GroupView (evolve colorForm.values recolored).snapshot _ "colors" :=
    (view "colors").1
  have painted : GroupView (evolve colorForm.values recolored).snapshot _ "paints" :=
    (view "paints").1
  obtain ⟨-, -, -, -, declared⟩ := view "colors"
  refine ⟨built, ?_, ?_, ?_⟩
  · rw [colored.members]
    decide +kernel
  · rw [painted.members]
    decide +kernel
  · exact (declared colors .english none colorForm built).one (fieldOf red) List.mem_cons_self

end FormRules.Proofs.Entry
