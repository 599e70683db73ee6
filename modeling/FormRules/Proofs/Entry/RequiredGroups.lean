import FormRules.Proofs.Configuration.Validity
import FormRules.Proofs.Entry.Groups

/-!
# Groups that have to be checked

Whether `required_one_of` asks for anything depends on the first declared field of the group. If
that field can be checked, then the rule is violated exactly while no field of the group is
checked, whatever kind the fields are of. If it cannot, then the rule is never violated.
-/

namespace FormRules.Proofs.Entry
open Evaluation Proofs.Configuration

variable {fields : List Field} {f x : Field} {v : FormValues} {specs : List FieldSpec}
  {c : Catalog} {display : Option DisplayOptions} {form : Form}

def isChecked (v : FormValues) (f : Field) : Bool :=
  ((v.snapshot.field f.id).getD {}).checked

def GroupUnchecked (fields : List Field) (v : FormValues) (f : Field) : Prop :=
  ∀ g ∈ fields, g.group = f.group → isChecked v g = false

theorem groupIsChecked_eq_false_iff (groups : Groups fields v) (mem : f ∈ fields) :
    f.groupIsChecked v.snapshot = false ↔ GroupUnchecked fields v f := by
  rw [Bool.eq_false_iff, ne_eq, groups.groupIsChecked_iff mem]
  constructor
  · intro unset g gMem same
    exact Bool.eq_false_iff.2 fun checked => unset ⟨g, gMem, same, checked⟩
  · rintro unset ⟨g, gMem, same, checked⟩
    have unchecked := unset g gMem same
    rw [isChecked, checked] at unchecked
    cases unchecked

theorem isSome_groupKey?_iff {kind : FieldKind} :
    (∃ key, Field.groupKey? kind = some key) ↔ kind.isCheckable = true := by
  cases kind <;> simp [Field.groupKey?, FieldKind.isCheckable]

theorem exists_violates_requiredOneOf_iff (groups : Groups fields v) (mem : f ∈ fields)
    (leads : Leads fields x f) :
    (∃ violation, Violates f v.snapshot .requiredOneOf violation) ↔
      x.kind.isCheckable = true ∧ GroupUnchecked fields v f := by
  have kind : (f.groupLeader v.snapshot).kind = x.kind := by
    rw [leads.groupLeader_eq groups]
    rfl
  rw [← isSome_groupKey?_iff, ← groupIsChecked_eq_false_iff groups mem, ← kind]
  constructor
  · rintro ⟨violation, violates⟩
    cases violates with
    | group found unset => exact ⟨⟨_, found⟩, unset⟩
    | other filled fails => cases fails
  · rintro ⟨⟨key, found⟩, unset⟩
    exact ⟨_, .group found unset⟩

/-- However a form is filled in, a field that requires its group to be checked fails while nothing
of the group is checked, provided that the first declared field of the group can be checked. In no
other case is the rule violated. -/
theorem required_group_is_reported (built : Form.build specs c display = .ok form)
    (reached : Reachable form v) (mem : f ∈ form.fields) (rule : .requiredOneOf ∈ f.rules) :
    ∃ x, Leads form.fields x f ∧
      (x.kind.isCheckable = true → GroupUnchecked form.fields v f →
        ∃ e, form.evaluateField? f.id v.snapshot = some (.error e)) ∧
      ((f.violation? v.snapshot .requiredOneOf).isSome = true ↔
        x.kind.isCheckable = true ∧ GroupUnchecked form.fields v f) := by
  have groups := reached.groups (distinct_ids_of_build built)
  obtain ⟨x, leads⟩ := exists_leads mem
  have violated := exists_violates_requiredOneOf_iff groups mem leads
  refine ⟨x, leads, ?_, ?_⟩
  · intro checkable unset
    obtain ⟨violation, violates⟩ := violated.2 ⟨checkable, unset⟩
    obtain ⟨e, failed⟩ := exists_error_of_violates rule violates
    exact ⟨e, by rw [evaluateField?_of_mem built mem, failed]⟩
  · rw [← violated, Option.isSome_iff_exists]
    simp only [violation?_eq_some_iff]

def note : FieldSpec where
  id := "g"

def box : FieldSpec where
  id := "a"
  kind := .checkbox
  group := some "g"
  rules := "required_one_of"

def boxMessages : Catalog :=
  (Catalog.empty.set .requiredCheckbox "check one").set .requiredRadio "choose one"

def boxForm (specs : List FieldSpec) : Form where
  fields := specs.map fieldOf
  catalog := boxMessages
  display := none

theorem required_box_is_reported :
    Form.build [box, note] boxMessages none = .ok (boxForm [box, note]) ∧
      ∃ e, (boxForm [box, note]).evaluateField? "a" (boxForm [box, note]).values.snapshot =
        some (.error e) := by
  have built : Form.build [box, note] boxMessages none = .ok (boxForm [box, note]) :=
    build_eq_ok_iff.2 ⟨by decide +kernel, rfl⟩
  have mem : fieldOf box ∈ (boxForm [box, note]).fields := by simp [boxForm]
  have own : Leads (boxForm [box, note]).fields (fieldOf box) (fieldOf box) := by
    unfold Leads
    decide +kernel
  have unset : ∀ g ∈ (boxForm [box, note]).fields, g.group = (fieldOf box).group →
      isChecked (boxForm [box, note]).values g = false := by
    decide +kernel
  obtain ⟨x, leads, reported, -⟩ :=
    required_group_is_reported built .untouched mem (by decide +kernel)
  have leader : x = fieldOf box := Option.some.inj (leads.symm.trans own)
  exact ⟨built, reported (by rw [leader]; rfl) unset⟩

def NeverPassed (form : Form) : Prop :=
  ∀ v, Reachable form v → ∀ f ∈ form.fields, f.kind.isCheckable = true → .requiredOneOf ∈ f.rules →
    (∀ g ∈ form.fields, g.kind.isCheckable = true → g.group = f.group → isChecked v g = false) →
    ∃ e, form.evaluateField? f.id v.snapshot = some (.error e)

/-- The checkbox passes unchecked if the text field comes first, and also if it comes last and is
marked as checked. -/
theorem unchecked_group_passes :
    (Form.build [note, box] boxMessages none = .ok (boxForm [note, box]) ∧
      ¬NeverPassed (boxForm [note, box])) ∧
    Form.build [box, note] boxMessages none = .ok (boxForm [box, note]) ∧
      ¬NeverPassed (boxForm [box, note]) := by
  refine ⟨⟨build_eq_ok_iff.2 ⟨by decide +kernel, rfl⟩, ?_⟩,
    build_eq_ok_iff.2 ⟨by decide +kernel, rfl⟩, ?_⟩
  · intro never
    have passes : (boxForm [note, box]).evaluateField? "a" (boxForm [note, box]).values.snapshot =
        some (.success "a") := by
      decide +kernel
    obtain ⟨e, failed⟩ := never _ .untouched (fieldOf box) (by simp [boxForm]) rfl
      (by decide +kernel) (by decide +kernel)
    cases passes.symm.trans failed
  · intro never
    have passes : (boxForm [box, note]).evaluateField? "a"
        ((boxForm [box, note]).values.setChecked "g" true).snapshot = some (.success "a") := by
      decide +kernel
    obtain ⟨e, failed⟩ := never _ (.setChecked "g" true .untouched) (fieldOf box)
      (by simp [boxForm]) rfl (by decide +kernel) (by decide +kernel)
    cases passes.symm.trans failed

end FormRules.Proofs.Entry
