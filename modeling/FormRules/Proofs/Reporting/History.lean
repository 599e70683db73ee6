import FormRules.Proofs.Reporting.Records

/-!
# Rolling reports

A report may be kept over many passes: verdicts are recorded in it and later reports are merged
into it. It holds the first verdict of each kind for each id, in the order in which the verdicts
came, and what it holds stays where it is.
-/

namespace FormRules.Proofs.Reporting
open Report

/-! ## Steps -/

inductive Step where
  | record (v : Verdict)
  | merge (later : Report)

namespace Step

def run (r : Report) : Step → Report
  | record v => r.record v
  | merge later => r.merge later

/-- What a step brings; of a report the errors come first. -/
def verdicts : Step → List Verdict
  | record v => [v]
  | merge later => later.errors.map .error ++ later.successes.map .success

end Step

def roll (r : Report) (steps : List Step) : Report :=
  steps.foldl Step.run r

def history (steps : List Step) : List Verdict :=
  steps.flatMap Step.verdicts

variable {r later : Report} {vs : List Verdict} {steps : List Step}

theorem recordAll_append {ws : List Verdict} :
    r.recordAll (vs ++ ws) = (r.recordAll vs).recordAll ws :=
  List.foldl_append

theorem run_eq (r : Report) (step : Step) : step.run r = r.recordAll step.verdicts := by
  cases step with
  | record v => rfl
  | merge later => rfl

theorem roll_eq (r : Report) (steps : List Step) : roll r steps = r.recordAll (history steps) := by
  induction steps generalizing r with
  | nil => rfl
  | cons step steps ih =>
    calc
      roll r (step :: steps) = roll (step.run r) steps := rfl
      _ = (step.run r).recordAll (history steps) := ih _
      _ = (r.recordAll step.verdicts).recordAll (history steps) := by rw [run_eq]
      _ = r.recordAll (history (step :: steps)) := recordAll_append.symm

theorem roll_append {more : List Step} : roll r (steps ++ more) = roll (roll r steps) more :=
  List.foldl_append

theorem history_record : history (vs.map .record) = vs := by
  rw [history, List.flatMap_map]
  exact List.flatMap_singleton' vs

/-! ## Merging -/

theorem error?_verdicts : r.verdicts.filterMap Verdict.error? = r.errors := by
  simp [verdicts, Function.comp_def, Verdict.error?]

theorem success?_verdicts : r.verdicts.filterMap success? = r.successes := by
  simp [verdicts, Function.comp_def, success?]

theorem merge_eq : r.merge later =
    ⟨extend ErrorResult.fieldId r.errors later.errors, extend id r.successes later.successes⟩ := by
  rw [merge, recordAll_eq, error?_verdicts, success?_verdicts]

theorem merge_recordAll : r.merge (recordAll {} vs) = r.recordAll vs := by
  rw [merge_eq, recordAll_eq, recordAll_eq]
  simp only [← extend_assoc, extend_nil]

/-! ## What stays -/

structure Keeps (earlier later : Report) : Prop where
  errors : earlier.errors <+: later.errors
  successes : earlier.successes <+: later.successes
  errorFor? : ∀ id e, earlier.errorFor? id = some e → later.errorFor? id = some e
  isValid : later.isValid = true → earlier.isValid = true

theorem keeps_of_prefix (errors : r.errors <+: later.errors)
    (successes : r.successes <+: later.successes) : Keeps r later := by
  refine ⟨errors, successes, ?_, ?_⟩
  · intro id e found
    exact errors.find?_eq_some found
  · intro valid
    rw [isValid, List.isEmpty_iff] at valid ⊢
    exact List.prefix_nil.1 (valid ▸ errors)

theorem keeps_recordAll (r : Report) (vs : List Verdict) : Keeps r (r.recordAll vs) := by
  rw [recordAll_eq]
  exact keeps_of_prefix prefix_extend prefix_extend

theorem keeps_roll (r : Report) (steps : List Step) : Keeps r (roll r steps) := by
  rw [roll_eq]
  exact keeps_recordAll r (history steps)

structure FirstsOf (report : Report) (vs : List Verdict) : Prop where
  errors : report.errors = firsts ErrorResult.fieldId [] (vs.filterMap Verdict.error?)
  successes : report.successes = firsts id [] (vs.filterMap success?)

theorem firstsOf_recordAll (vs : List Verdict) : FirstsOf (recordAll {} vs) vs := by
  rw [recordAll_eq]
  exact ⟨nil_extend, nil_extend⟩

/-- No id occurs twice in a list; it may occur in both. -/
structure Distinct (report : Report) : Prop where
  errors : (report.errors.map ErrorResult.fieldId).Nodup
  successes : report.successes.Nodup

theorem FirstsOf.distinct (first : FirstsOf r vs) : Distinct r where
  errors := first.errors ▸ nodup_map_firsts
  successes := by
    have named : (r.successes.map id).Nodup := first.successes ▸ nodup_map_firsts
    rwa [List.map_id] at named

/-- A report that started empty holds the first verdict of each kind for each id that went into it,
and nothing in it is changed, moved or removed later. Verdicts that are recorded one by one come to
the same as a report that is made of them and then merged. -/
theorem report_of_history (steps : List Step) :
    FirstsOf (roll {} steps) (history steps) ∧
    Distinct (roll {} steps) ∧
    (∀ more, Keeps (roll {} steps) (roll {} (steps ++ more))) ∧
    ∀ vs : List Verdict, roll {} (steps ++ vs.map .record) =
      roll {} (steps ++ [.merge (roll {} (vs.map .record))]) := by
  have first : FirstsOf (roll {} steps) (history steps) := by
    rw [roll_eq]
    exact firstsOf_recordAll (history steps)
  refine ⟨first, first.distinct, ?_, ?_⟩
  · intro more
    rw [roll_append]
    exact keeps_roll (roll {} steps) more
  · intro vs
    have one : roll (roll {} steps) (vs.map .record) = (roll {} steps).recordAll vs := by
      rw [roll_eq, history_record]
    have fresh : roll {} (vs.map .record) = recordAll {} vs := by
      rw [roll_eq, history_record]
    rw [roll_append, roll_append, one, fresh]
    exact merge_recordAll.symm

end FormRules.Proofs.Reporting
