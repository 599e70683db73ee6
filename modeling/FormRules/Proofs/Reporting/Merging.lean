import FormRules.Proofs.Reporting.History

/-!
# Merged reports

Merging keeps a report as it is, repeated ids included, and takes from the later one what has a new
id. So reports can be merged in any grouping, and merging what is there already changes nothing. A
form can be evaluated part by part.
-/

namespace FormRules.Proofs.Reporting
open Report

variable {r later : Report} {fields more : List Field} {s : Snapshot} {c : Catalog}

theorem merge_assoc (first second third : Report) :
    (first.merge second).merge third = first.merge (second.merge third) := by
  simp only [merge_eq, extend_assoc]

structure Covers (r later : Report) : Prop where
  errors : ∀ e ∈ later.errors, e.fieldId ∈ r.errors.map ErrorResult.fieldId
  successes : ∀ id ∈ later.successes, id ∈ r.successes

theorem covers_merge_left : Covers (r.merge later) r := by
  rw [merge_eq]
  constructor
  · intro e mem
    exact mem_map_extend.2 (.inl (List.mem_map_of_mem mem))
  · intro id mem
    exact prefix_extend.subset mem

theorem covers_self : Covers r r where
  errors _ mem := List.mem_map_of_mem mem
  successes _ mem := mem

theorem covers_empty : Covers r {} where
  errors _ mem := nomatch mem
  successes _ mem := nomatch mem

theorem merge_eq_self_iff : r.merge later = r ↔ Covers r later := by
  cases r with
  | mk errors successes =>
    rw [merge_eq, Report.mk.injEq, extend_eq_self_iff, extend_eq_self_iff, List.map_id]
    constructor
    · exact fun ⟨errors, successes⟩ => ⟨errors, successes⟩
    · exact fun covers => ⟨covers.errors, covers.successes⟩

theorem empty_merge_eq_self_iff : Report.merge {} r = r ↔ Distinct r := by
  cases r with
  | mk errors successes =>
    rw [merge_eq, Report.mk.injEq, nil_extend_eq_self_iff, nil_extend_eq_self_iff, List.map_id]
    constructor
    · exact fun ⟨errors, successes⟩ => ⟨errors, successes⟩
    · exact fun distinct => ⟨distinct.errors, distinct.successes⟩

theorem evaluateForm_append : evaluateForm (fields ++ more) s c =
    (evaluateForm fields s c).merge (evaluateForm more s c) := by
  simp only [evaluateForm, List.map_append]
  rw [recordAll_append, merge_recordAll]

/-- Merging is associative and idempotent, and the report on the left stays as it is; the one on the
right does so behind an empty report only if no id is repeated. The report of a form is made of the
reports of its parts. -/
theorem merging_reports (first second third : Report) :
    (first.merge second).merge third = first.merge (second.merge third) ∧
    first.merge first = first ∧
    first.merge {} = first ∧
    (first.merge second).merge first = first.merge second ∧
    (Report.merge {} first = first ↔ Distinct first) ∧
    Keeps first (first.merge second) ∧
    ∀ fields more s c, evaluateForm (fields ++ more) s c =
      (evaluateForm fields s c).merge (evaluateForm more s c) := by
  refine ⟨merge_assoc first second third, ?_, ?_, ?_, empty_merge_eq_self_iff, ?_, ?_⟩
  · exact merge_eq_self_iff.2 covers_self
  · exact merge_eq_self_iff.2 covers_empty
  · exact merge_eq_self_iff.2 covers_merge_left
  · exact keeps_recordAll first second.verdicts
  · exact fun _ _ _ _ => evaluateForm_append

end FormRules.Proofs.Reporting
