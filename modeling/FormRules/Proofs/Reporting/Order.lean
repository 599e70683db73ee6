import FormRules.Message.Defaults
import FormRules.Proofs.Configuration.Order
import FormRules.Proofs.Entry.RequiredGroups
import FormRules.Proofs.Evaluation.Inputs
import FormRules.Proofs.Reporting.Agreement

/-!
# Forms that differ in the order of their fields

The same edits leave the same in the fields of both forms. Only `required_one_of` looks at the
order, by the first field of its group. As long as such a group does not mix fields that can be
checked with others, the same fields pass.
-/

namespace FormRules.Proofs.Reporting
open Entry Evaluation Proofs.Configuration

variable {fields fields' : List Field} {f : Field} {v w : FormValues} {c : Catalog}
  {specs specs' : List FieldSpec} {display : Option DisplayOptions} {form form' : Form}

def OneKind (fields : List Field) (group : String) : Prop :=
  (∀ g ∈ fields, g.group = group → g.kind.isCheckable = true) ∨
    ∀ g ∈ fields, g.group = group → g.kind.isCheckable = false

theorem OneKind.isCheckable_eq {group : String} (oneKind : OneKind fields group) {x y : Field}
    (xMem : x ∈ fields) (xGroup : x.group = group) (yMem : y ∈ fields) (yGroup : y.group = group) :
    x.kind.isCheckable = y.kind.isCheckable := by
  rcases oneKind with checkable | other
  · rw [checkable x xMem xGroup, checkable y yMem yGroup]
  · rw [other x xMem xGroup, other y yMem yGroup]

theorem groupUnchecked_of_perm (perm : fields'.Perm fields) (same : v.states = w.states) :
    GroupUnchecked fields' v f ↔ GroupUnchecked fields w f := by
  simp only [GroupUnchecked, isChecked, field_snapshot_congr same, perm.mem_iff]

theorem requiredOneOf_eq_none_of_perm (perm : fields'.Perm fields) (same : v.states = w.states)
    (groups' : Groups fields' v) (groups : Groups fields w) (mem : f ∈ fields)
    (oneKind : OneKind fields f.group) :
    f.violation? v.snapshot .requiredOneOf = none ↔
      f.violation? w.snapshot .requiredOneOf = none := by
  have mem' : f ∈ fields' := perm.mem_iff.2 mem
  obtain ⟨x, leads⟩ := exists_leads mem
  obtain ⟨x', leads'⟩ := exists_leads mem'
  -- another field may come first in the group, but it is one that can be checked if this one is
  have kind : x'.kind.isCheckable = x.kind.isCheckable :=
    oneKind.isCheckable_eq (perm.mem_iff.1 leads'.mem) leads'.group_eq leads.mem leads.group_eq
  have violated : (∃ violation, Violates f v.snapshot .requiredOneOf violation) ↔
      ∃ violation, Violates f w.snapshot .requiredOneOf violation := by
    rw [exists_violates_requiredOneOf_iff groups' mem' leads',
      exists_violates_requiredOneOf_iff groups mem leads, kind, groupUnchecked_of_perm perm same]
  simpa only [Option.eq_none_iff_forall_ne_some, ne_eq, violation?_eq_some_iff, not_exists] using
    not_congr violated

theorem isSuccess_of_perm (perm : fields'.Perm fields) (same : v.states = w.states)
    (groups' : Groups fields' v) (groups : Groups fields w) (mem : f ∈ fields)
    (oneKind : .requiredOneOf ∈ f.rules → OneKind fields f.group) :
    (f.evaluate v.snapshot c).isSuccess = (f.evaluate w.snapshot c).isSuccess := by
  rw [Bool.eq_iff_iff, isSuccess_evaluate_iff, isSuccess_evaluate_iff]
  refine forall₂_congr fun r rule => ?_
  by_cases group : r = .requiredOneOf
  · subst group
    exact requiredOneOf_eq_none_of_perm perm same groups' groups mem (oneKind rule)
  · rw [(agreeFor_of_states same group).violation?_eq]

structure PassAlike (form' form : Form) (s' s : Snapshot) : Prop where
  isValid : (form'.evaluate s').isValid = (form.evaluate s).isValid
  isSuccess : ∀ id, (form'.evaluateField? id s').map Verdict.isSuccess =
    (form.evaluateField? id s).map Verdict.isSuccess

theorem map_isSuccess_eq_some_iff (built : Form.build specs c display = .ok form) {id : String}
    {s : Snapshot} {b : Bool} : (form.evaluateField? id s).map Verdict.isSuccess = some b ↔
      ∃ f ∈ form.fields, f.id = id ∧ (f.evaluate s c).isSuccess = b := by
  simp only [Option.map_eq_some_iff, evaluateField?_eq_some_iff built]
  constructor
  · rintro ⟨verdict, ⟨f, mem, named, rfl⟩, passes⟩
    exact ⟨f, mem, named, passes⟩
  · rintro ⟨f, mem, named, passes⟩
    exact ⟨_, ⟨f, mem, named, rfl⟩, passes⟩

theorem isValid_of_build (built : Form.build specs c display = .ok form) (s : Snapshot) :
    (form.evaluate s).isValid = true ↔ ∀ f ∈ form.fields, (f.evaluate s c).isSuccess = true := by
  rw [Form.evaluate, evaluateForm, catalog_of_build built, isValid_recordAll_iff,
    List.forall_mem_map]

theorem passAlike_of_perm (perm : form'.fields.Perm form.fields)
    (built' : Form.build specs' c display = .ok form')
    (built : Form.build specs c display = .ok form) {s' s : Snapshot}
    (same : ∀ f ∈ form.fields, (f.evaluate s' c).isSuccess = (f.evaluate s c).isSuccess) :
    PassAlike form' form s' s := by
  constructor
  · rw [Bool.eq_iff_iff, isValid_of_build built', isValid_of_build built]
    simp only [perm.mem_iff]
    exact forall₂_congr fun f mem => by rw [same f mem]
  · intro id
    ext b
    rw [map_isSuccess_eq_some_iff built', map_isSuccess_eq_some_iff built]
    simp only [perm.mem_iff]
    exact exists_congr fun f => and_congr_right fun mem => by rw [same f mem]

/-- Putting the fields into another order leaves the errors of a configuration as they are, up to
their order. In a form, the same fields pass after the same edits, unless a field requires a group
that mixes fields that can be checked with others. -/
theorem order_of_fields (specs specs' : List FieldSpec) (perm : specs'.Perm specs) (c : Catalog)
    (display : Option DisplayOptions) :
    ((∃ form', Form.build specs' c display = .ok form') ↔
      ∃ form, Form.build specs c display = .ok form) ∧
    (∀ errors' errors, Form.build specs' c display = .error errors' →
      Form.build specs c display = .error errors → errors'.Perm errors) ∧
    ∀ form' form, Form.build specs' c display = .ok form' → Form.build specs c display = .ok form →
      (∀ f ∈ form.fields, .requiredOneOf ∈ f.rules → OneKind form.fields f.group) → ∀ edits,
        PassAlike form' form (fill form'.values edits).snapshot
          (fill form.values edits).snapshot := by
  refine ⟨exists_build_iff_of_perm perm, fun _ _ => errors_perm_of_build perm, ?_⟩
  intro form' form built' built oneKind edits
  have fields := fields_perm_of_build perm built' built
  have groups' := (reachable_fill .untouched edits).groups (distinct_ids_of_build built')
  have groups := (reachable_fill .untouched edits).groups (distinct_ids_of_build built)
  apply passAlike_of_perm fields built' built
  intro f mem
  exact isSuccess_of_perm fields (fill_values_states form form' edits) groups' groups mem
    (oneKind f mem)

def tea : FieldSpec where
  id := "tea"
  kind := .radio
  group := some "drink"
  rules := "required_one_of"

def coffee : FieldSpec where
  id := "coffee"
  kind := .radio
  group := some "drink"

def guest : FieldSpec where
  id := "guest"
  rules := "required"

def drinks : List FieldSpec :=
  [tea, coffee, guest]

def coffeeForGuest : List Edit :=
  [.setValue "guest" "me", .apply [("coffee", .state { checked := true })]]

theorem drinks_in_reverse :
    (∃ form' form, Form.build drinks.reverse .english none = .ok form' ∧
      Form.build drinks .english none = .ok form ∧
      (∀ f ∈ form.fields, .requiredOneOf ∈ f.rules → OneKind form.fields f.group) ∧
      (form'.evaluate (fill form'.values coffeeForGuest).snapshot).isValid = true ∧
      (form'.evaluateField? "tea" (fill form'.values []).snapshot).map Verdict.isSuccess =
        some false) ∧
    ∀ errors', Form.build [guest, tea, tea] .english none = .error errors' →
      errors' = [.duplicateField "tea"] := by
  have built : Form.build drinks .english none = .ok ⟨drinks.map fieldOf, .english, none⟩ :=
    build_eq_ok_iff.2 ⟨by decide +kernel, rfl⟩
  have rejected : Form.build [tea, guest, tea] .english none = .error [.duplicateField "tea"] :=
    build_eq_error_iff.2 ⟨by decide +kernel, by decide⟩
  have oneKind : ∀ f ∈ drinks.map fieldOf, .requiredOneOf ∈ f.rules →
      OneKind (drinks.map fieldOf) f.group := by
    have radio : ∀ f ∈ drinks.map fieldOf, .requiredOneOf ∈ f.rules → f.group = "drink" := by
      decide +kernel
    have checkable : ∀ g ∈ drinks.map fieldOf, g.group = "drink" → g.kind.isCheckable = true := by
      decide +kernel
    intro f mem rule
    rw [radio f mem rule]
    exact .inl checkable
  obtain ⟨accepted, -, passAlike⟩ :=
    order_of_fields drinks drinks.reverse drinks.reverse_perm .english none
  obtain ⟨-, reported, -⟩ :=
    order_of_fields [tea, guest, tea] [guest, tea, tea] (.swap tea guest [tea]) .english none
  obtain ⟨form', built'⟩ := accepted.2 ⟨_, built⟩
  have alike := passAlike form' _ built' built oneKind
  refine ⟨⟨form', _, built', built, oneKind, ?_, ?_⟩, ?_⟩
  · rw [(alike coffeeForGuest).isValid]
    decide +kernel
  · rw [(alike []).isSuccess]
    decide +kernel
  · intro errors' rejected'
    exact List.perm_singleton.1 (reported errors' _ rejected' rejected)

end FormRules.Proofs.Reporting
