import FormRules.Evaluation

/-!
# Violated rules

`Violates` says for each rule when it is violated and what is reported then; the evaluator finds
exactly these violations. The facts below it are read off one constructor at a time.
-/

namespace FormRules.Proofs.Evaluation

abbrev stateOf (f : Field) (s : Snapshot) : FieldState :=
  (s.field f.id).getD {}

abbrev valueOf (f : Field) (s : Snapshot) : String :=
  Text.trimmed (stateOf f s).value

inductive Violates (f : Field) (s : Snapshot) : Rule → Violation → Prop where
  | unchecked (checkable : f.kind.isCheckable = true) (unset : (stateOf f s).checked = false) :
      Violates f s .required (Rule.required.violation f)
  | blank (typed : f.kind.isCheckable = false) (empty : valueOf f s = "") :
      Violates f s .required (Rule.required.violation f)
  | group {key} (found : Field.groupKey? (f.groupLeader s).kind = some key)
      (unset : f.groupIsChecked s = false) :
      Violates f s .requiredOneOf
        ⟨.requiredOneOf, key, (f.groupLeader s).id, [("field", (f.groupLeader s).label)]⟩
  | notANumber {c t} (filled : valueOf f s ≠ "") (unread : Rule.number? (valueOf f s) = none) :
      Violates f s (.comparison c t) (f.notANumber c)
  | comparison {c t x} (filled : valueOf f s ≠ "") (read : Rule.number? (valueOf f s) = some x)
      (fails : c.holds x t.value = false) :
      Violates f s (.comparison c t) ((Rule.comparison c t).violation f)
  | other {r} (filled : valueOf f s ≠ "")
      (fails : r.holds s (stateOf f s).value (valueOf f s) = false) :
      Violates f s r (r.violation f)

theorem violates_other {f : Field} {s : Snapshot} {r : Rule} {v : Violation}
    (h : (if (valueOf f s).isEmpty || r.holds s (stateOf f s).value (valueOf f s) then none
      else some (r.violation f)) = some v) : Violates f s r v := by
  split at h
  · cases h
  · rename_i fails
    rw [Bool.or_eq_true, not_or, String.isEmpty_iff, Bool.not_eq_true] at fails
    cases h
    exact .other fails.1 fails.2

theorem violates_of_violation? {f : Field} {s : Snapshot} {r : Rule} {v : Violation}
    (h : f.violation? s r = some v) : Violates f s r v := by
  cases r with
  | required =>
    simp only [Field.violation?] at h
    split at h
    · rename_i checkable
      split at h
      · cases h
      · rename_i unset
        cases h
        exact .unchecked checkable (Bool.eq_false_iff.2 unset)
    · rename_i typed
      split at h
      · rename_i empty
        cases h
        exact .blank (Bool.eq_false_iff.2 typed) (String.isEmpty_iff.1 empty)
      · cases h
  | requiredOneOf =>
    simp only [Field.violation?, Field.groupViolation?] at h
    split at h
    · cases h
    · rename_i key found
      split at h
      · cases h
      · rename_i unset
        cases h
        exact .group found (Bool.eq_false_iff.2 unset)
  | comparison c t =>
    simp only [Field.violation?] at h
    split at h
    · cases h
    · rename_i filled
      rw [String.isEmpty_iff] at filled
      split at h
      · rename_i unread
        cases h
        exact .notANumber filled unread
      · rename_i x read
        split at h
        · cases h
        · rename_i fails
          cases h
          exact .comparison filled read (Bool.eq_false_iff.2 fails)
  | _ =>
    simp only [Field.violation?] at h
    exact violates_other h

theorem violation?_of_violates {f : Field} {s : Snapshot} {r : Rule} {v : Violation}
    (h : Violates f s r v) : f.violation? s r = some v := by
  cases h with
  | unchecked checkable unset => simp_all [Field.violation?, stateOf]
  | blank typed empty => simp_all [Field.violation?, valueOf, stateOf]
  | group found unset => simp [Field.violation?, Field.groupViolation?, found, unset]
  | notANumber filled unread => simp_all [Field.violation?, valueOf, stateOf]
  | comparison filled read fails => simp_all [Field.violation?, valueOf, stateOf]
  | other filled fails =>
    cases r with
    | required => cases fails
    | requiredOneOf => cases fails
    | comparison c t => cases fails
    | _ => simp_all [Field.violation?, valueOf, stateOf]

theorem violation?_eq_some_iff {f : Field} {s : Snapshot} {r : Rule} {v : Violation} :
    f.violation? s r = some v ↔ Violates f s r v :=
  ⟨violates_of_violation?, violation?_of_violates⟩

variable {f : Field} {s : Snapshot} {r : Rule} {v : Violation}

theorem Violates.rule_eq (h : Violates f s r v) : v.rule = r.name := by
  cases h <;> rfl

theorem Violates.fieldId_eq (h : Violates f s r v) :
    v.fieldId = f.id ∨ r = .requiredOneOf ∧ v.fieldId = (f.groupLeader s).id := by
  cases h with
  | group found unset => exact .inr ⟨rfl, rfl⟩
  | _ => exact .inl rfl

theorem rule_name_mem_ofRule (single : r ≠ .requiredOneOf) :
    .rule r.name ∈ MessageKey.ofRule r.name := by
  cases r with
  | requiredOneOf => exact absurd rfl single
  | _ => exact List.mem_cons_self

theorem groupKey?_mem_ofRule {kind : FieldKind} {key : MessageKey}
    (found : Field.groupKey? kind = some key) : key ∈ MessageKey.ofRule .requiredOneOf := by
  cases kind <;> cases found <;> decide

theorem isCheckable_of_groupKey? {kind : FieldKind} {key : MessageKey}
    (found : Field.groupKey? kind = some key) : kind.isCheckable = true := by
  cases kind <;> cases found <;> rfl

theorem Violates.key_mem_ofRule (h : Violates f s r v) : v.key ∈ MessageKey.ofRule r.name := by
  cases h with
  | unchecked checkable unset => exact rule_name_mem_ofRule Rule.noConfusion
  | blank typed empty => exact rule_name_mem_ofRule Rule.noConfusion
  | group found unset => exact groupKey?_mem_ofRule found
  | notANumber filled unread => exact List.mem_cons_of_mem _ List.mem_cons_self
  | comparison filled read fails => exact rule_name_mem_ofRule Rule.noConfusion
  | other filled fails =>
    apply rule_name_mem_ofRule
    rintro rfl
    cases fails

theorem value?_isSome_iff {v : Violation} {name : String} :
    (v.value? name).isSome = true ↔ name ∈ v.values.map Prod.fst := by
  simp only [Violation.value?, List.lookup_isSome_iff, beq_iff_eq, List.mem_map]
  exact ⟨fun ⟨p, mem, eq⟩ => ⟨p, mem, eq.symm⟩, fun ⟨p, mem, eq⟩ => ⟨p, mem, eq.symm⟩⟩

theorem violation_supplies (f : Field) (r : Rule) {name : String}
    (mem : name ∈ (MessageKey.rule r.name).placeholders) :
    ((r.violation f).value? name).isSome = true := by
  rw [value?_isSome_iff]
  cases r <;> simpa [MessageKey.placeholders, Rule.name, Rule.violation, Rule.messageValues,
    or_comm] using mem

theorem Violates.supplies (h : Violates f s r v) {name : String}
    (mem : name ∈ v.key.placeholders) : (v.value? name).isSome = true := by
  cases h with
  | group found unset =>
    rename_i key
    cases kind : (f.groupLeader s).kind <;> rw [kind] at found <;> cases found
    all_goals
      rw [value?_isSome_iff]
      simpa [MessageKey.placeholders] using mem
  | notANumber filled unread =>
    rw [value?_isSome_iff]
    simpa [Field.notANumber, MessageKey.placeholders] using mem
  | _ => exact violation_supplies f _ mem

variable {c : Catalog}

theorem evaluate_eq_error_iff {e : ErrorResult} :
    f.evaluate s c = .error e ↔ ∃ v, f.firstViolation? s = some v ∧ v.result c = e := by
  unfold Field.evaluate
  cases f.firstViolation? s <;> simp

theorem evaluate_eq_success_iff {id : String} :
    f.evaluate s c = .success id ↔ f.firstViolation? s = none ∧ id = f.id := by
  unfold Field.evaluate
  cases f.firstViolation? s <;> simp [eq_comm]

theorem isSuccess_evaluate_iff :
    (f.evaluate s c).isSuccess = true ↔ ∀ r ∈ f.rules, f.violation? s r = none := by
  rw [← List.findSome?_eq_none_iff, ← Field.firstViolation?, Field.evaluate]
  cases f.firstViolation? s <;> simp [Verdict.isSuccess]

theorem violates_of_firstViolation? (h : f.firstViolation? s = some v) :
    ∃ r ∈ f.rules, Violates f s r v := by
  obtain ⟨r, mem, violated⟩ := List.exists_of_findSome?_eq_some h
  exact ⟨r, mem, violation?_eq_some_iff.1 violated⟩

theorem exists_error_of_violates (mem : r ∈ f.rules) (h : Violates f s r v) :
    ∃ e, f.evaluate s c = .error e := by
  cases first : f.firstViolation? s with
  | none =>
    have obeyed := List.findSome?_eq_none_iff.1 first r mem
    rw [violation?_eq_some_iff.2 h] at obeyed
    cases obeyed
  | some v => exact ⟨_, evaluate_eq_error_iff.2 ⟨v, first, rfl⟩⟩

end FormRules.Proofs.Evaluation
