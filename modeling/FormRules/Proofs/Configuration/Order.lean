import FormRules.Proofs.Configuration.Errors
import Mathlib.Data.List.Basic

/-!
# The order of the fields

A configuration is checked from the first field to the last, and which occurrence of an id counts as
the second one depends on the order. Which errors there are does not: an id is a duplicate if it
occurs twice, and a target is known wherever it is declared.
-/

namespace FormRules.Proofs.Configuration
open Form

variable {seen : List String} {specs specs' : List FieldSpec} {c : Catalog}
  {display : Option DisplayOptions} {e : ConfigError}

theorem emptyFieldId_mem_iff :
    .emptyFieldId ∈ idErrors seen specs ↔ ∃ spec ∈ specs, Text.isBlank spec.id.toList = true := by
  induction specs generalizing seen with
  | nil => simp [idErrors]
  | cons spec specs ih =>
    rw [List.exists_mem_cons_iff, idErrors]
    split
    · rename_i blank
      simp [blank]
    · rename_i filled
      split <;> simp [filled, ih]

theorem duplicateField_mem_iff {id : String} :
    .duplicateField id ∈ idErrors seen specs ↔ Text.isBlank id.toList = false ∧
      id ∈ specs.map FieldSpec.id ∧ (id ∈ seen ∨ 2 ≤ (specs.map FieldSpec.id).count id) := by
  induction specs generalizing seen with
  | nil => simp [idErrors]
  | cons spec specs ih =>
    rw [List.map_cons, List.mem_cons, List.count_cons, idErrors]
    by_cases same : id = spec.id
    · subst same
      split
      · rename_i blank
        simp [ih, blank]
      · rename_i filled
        rw [Bool.not_eq_true] at filled
        split
        · rename_i old
          rw [List.contains_iff_mem] at old
          simp [filled, old]
        · rename_i new
          rw [List.contains_iff_mem] at new
          simp [ih, filled, new]
    · split
      · simp [ih, same, Ne.symm same]
      · split <;> simp [ih, same, Ne.symm same]

theorem mem_idErrors_of_perm (perm : specs'.Perm specs) :
    e ∈ idErrors [] specs' ↔ e ∈ idErrors [] specs := by
  have transfer {specs specs' : List FieldSpec} (perm : specs'.Perm specs)
      (mem : e ∈ idErrors [] specs') : e ∈ idErrors [] specs := by
    have ids := perm.map FieldSpec.id
    rcases eq_of_mem_idErrors mem with rfl | ⟨id, rfl⟩
    · obtain ⟨spec, specMem, blank⟩ := emptyFieldId_mem_iff.1 mem
      exact emptyFieldId_mem_iff.2 ⟨spec, perm.mem_iff.1 specMem, blank⟩
    · rw [duplicateField_mem_iff, ids.mem_iff, ids.count_eq] at mem
      exact duplicateField_mem_iff.2 mem
  exact ⟨transfer perm, transfer perm.symm⟩

theorem declared_of_perm (perm : specs'.Perm specs) : Declared specs' = Declared specs := by
  funext id
  simp only [Declared, perm.mem_iff]

theorem clean_of_perm (perm : specs'.Perm specs) {spec : FieldSpec} :
    Clean specs' spec ↔ Clean specs spec := by
  simp only [Clean, declared_of_perm perm]

theorem mem_configErrors_of_perm (perm : specs'.Perm specs) :
    e ∈ configErrors specs' c display ↔ e ∈ configErrors specs c display := by
  simp only [mem_configErrors, mem_idErrors_of_perm perm, declared_of_perm perm,
    clean_of_perm perm, perm.mem_iff]

theorem configErrors_perm (perm : specs'.Perm specs) :
    (configErrors specs' c display).Perm (configErrors specs c display) :=
  (List.perm_ext_iff_of_nodup (nodup_configErrors specs' c display)
    (nodup_configErrors specs c display)).2 fun _ => mem_configErrors_of_perm perm

theorem configErrors_eq_nil_iff_of_perm (perm : specs'.Perm specs) :
    configErrors specs' c display = [] ↔ configErrors specs c display = [] := by
  simp only [List.eq_nil_iff_forall_not_mem, mem_configErrors_of_perm perm]

theorem exists_build_iff_of_perm (perm : specs'.Perm specs) :
    (∃ form, build specs' c display = .ok form) ↔ ∃ form, build specs c display = .ok form := by
  simp only [build_eq_ok_iff, configErrors_eq_nil_iff_of_perm perm, exists_and_left, exists_eq,
    and_true]

theorem errors_perm_of_build {errors errors' : List ConfigError} (perm : specs'.Perm specs)
    (rejected' : build specs' c display = .error errors')
    (rejected : build specs c display = .error errors) : errors'.Perm errors := by
  obtain ⟨rfl, -⟩ := build_eq_error_iff.1 rejected'
  obtain ⟨rfl, -⟩ := build_eq_error_iff.1 rejected
  exact configErrors_perm perm

theorem fields_perm_of_build {form form' : Form} (perm : specs'.Perm specs)
    (built' : build specs' c display = .ok form') (built : build specs c display = .ok form) :
    form'.fields.Perm form.fields := by
  obtain ⟨-, rfl⟩ := build_eq_ok_iff.1 built'
  obtain ⟨-, rfl⟩ := build_eq_ok_iff.1 built
  exact perm.map fieldOf

end FormRules.Proofs.Configuration
