import FormRules.Report
import Mathlib.Data.List.Basic

/-!
# Recorded verdicts

Each list of a report is made of the verdicts of its kind, in the order in which they were
recorded and without those of a field that was there before.
-/

namespace FormRules.Proofs.Reporting
open Report

/-! ## First entries -/

section Firsts
variable {α : Type} {key : α → String} {seen : List String} {as : List α}

/-- The entries whose key is neither in `seen` nor the key of an entry before. -/
def firsts (key : α → String) : (seen : List String) → List α → List α
  | _, [] => []
  | seen, a :: as =>
    if key a ∈ seen then firsts key seen as else a :: firsts key (seen ++ [key a]) as

theorem firsts_sublist : (firsts key seen as).Sublist as := by
  induction as generalizing seen with
  | nil => exact List.Sublist.refl _
  | cons a as ih =>
    unfold firsts
    split
    · exact ih.cons a
    · exact ih.cons_cons a

theorem mem_map_firsts {k : String} :
    k ∈ (firsts key seen as).map key ↔ k ∈ as.map key ∧ k ∉ seen := by
  induction as generalizing seen with
  | nil => simp [firsts]
  | cons a as ih =>
    unfold firsts
    split
    · rename_i old
      rw [ih, List.map_cons, List.mem_cons]
      constructor
      · exact fun ⟨mem, new⟩ => ⟨.inr mem, new⟩
      · rintro ⟨rfl | mem, new⟩
        · exact absurd old new
        · exact ⟨mem, new⟩
    · rename_i new
      simp only [List.map_cons, List.mem_cons, ih, List.mem_append, List.not_mem_nil, or_false]
      constructor
      · rintro (rfl | ⟨mem, later⟩)
        · exact ⟨.inl rfl, new⟩
        · exact ⟨.inr mem, fun old => later (.inl old)⟩
      · rintro ⟨eq | mem, unseen⟩
        · exact .inl eq
        · by_cases eq : k = key a
          · exact .inl eq
          · exact .inr ⟨mem, fun old => old.elim unseen eq⟩

theorem nodup_map_firsts : ((firsts key seen as).map key).Nodup := by
  induction as generalizing seen with
  | nil => exact List.nodup_nil
  | cons a as ih =>
    unfold firsts
    split
    · exact ih
    · rw [List.map_cons, List.nodup_cons]
      refine ⟨fun mem => ?_, ih⟩
      exact (mem_map_firsts.1 mem).2 (List.mem_append_right _ List.mem_cons_self)

theorem firsts_eq_self (distinct : (as.map key).Nodup) (new : ∀ a ∈ as, key a ∉ seen) :
    firsts key seen as = as := by
  induction as generalizing seen with
  | nil => rfl
  | cons a as ih =>
    rw [List.map_cons, List.nodup_cons] at distinct
    rw [List.forall_mem_cons] at new
    rw [firsts, if_neg new.1, ih distinct.2]
    intro b mem old
    rw [List.mem_append, List.mem_singleton] at old
    rcases old with old | same
    · exact new.2 b mem old
    · exact distinct.1 (same ▸ List.mem_map_of_mem mem)

theorem mem_firsts_iff {a : α} :
    a ∈ firsts key seen as ↔
      key a ∉ seen ∧ ∃ before after, as = before ++ a :: after ∧ ∀ b ∈ before, key b ≠ key a := by
  induction as generalizing seen with
  | nil => simp [firsts]
  | cons first as ih =>
    unfold firsts
    split
    · rename_i old
      rw [ih]
      constructor
      · rintro ⟨new, before, after, rfl, earlier⟩
        refine ⟨new, first :: before, after, rfl, List.forall_mem_cons.2 ⟨?_, earlier⟩⟩
        exact fun same => new (same ▸ old)
      · rintro ⟨new, before, after, split, earlier⟩
        cases before with
        | nil =>
          cases split
          exact absurd old new
        | cons b before =>
          cases split
          exact ⟨new, before, after, rfl, (List.forall_mem_cons.1 earlier).2⟩
    · rename_i new
      rw [List.mem_cons, ih]
      constructor
      · rintro (rfl | ⟨later, before, after, rfl, earlier⟩)
        · exact ⟨new, [], as, rfl, fun _ mem => nomatch mem⟩
        · rw [List.mem_append, List.mem_singleton, not_or] at later
          refine ⟨later.1, first :: before, after, rfl, List.forall_mem_cons.2 ⟨?_, earlier⟩⟩
          exact fun same => later.2 same.symm
      · rintro ⟨unseen, before, after, split, earlier⟩
        cases before with
        | nil =>
          cases split
          exact .inl rfl
        | cons b before =>
          cases split
          rw [List.forall_mem_cons] at earlier
          refine .inr ⟨?_, before, after, rfl, earlier.2⟩
          rw [List.mem_append, List.mem_singleton, not_or]
          exact ⟨unseen, earlier.1.symm⟩

theorem firsts_append {bs : List α} : firsts key seen (as ++ bs) =
    firsts key seen as ++ firsts key (seen ++ (firsts key seen as).map key) bs := by
  induction as generalizing seen with
  | nil => simp [firsts]
  | cons a as ih =>
    simp only [List.cons_append, firsts]
    split
    · exact ih
    · rw [ih, List.map_cons, List.append_assoc]
      rfl

theorem firsts_firsts {seen' : List String} (old : ∀ k ∈ seen', k ∈ seen) :
    firsts key seen (firsts key seen' as) = firsts key seen as := by
  induction as generalizing seen seen' with
  | nil => rfl
  | cons a as ih =>
    by_cases mem' : key a ∈ seen'
    · rw [firsts, if_pos mem', firsts, if_pos (old _ mem'), ih old]
    · rw [firsts, if_neg mem', firsts, firsts]
      split
      · rename_i mem
        exact ih (List.forall_mem_append.2 ⟨old, List.forall_mem_singleton.2 mem⟩)
      · have old' : ∀ k ∈ seen' ++ [key a], k ∈ seen ++ [key a] :=
          List.forall_mem_append.2 ⟨fun k mem => List.mem_append_left _ (old k mem),
            fun k mem => List.mem_append_right _ mem⟩
        rw [ih old']

theorem firsts_eq_nil_iff : firsts key seen as = [] ↔ ∀ a ∈ as, key a ∈ seen := by
  constructor
  · intro none a mem
    by_contra new
    have picked := mem_map_firsts.2 ⟨List.mem_map_of_mem mem, new⟩
    rw [none] at picked
    cases picked
  · intro old
    rw [List.eq_nil_iff_forall_not_mem]
    intro a mem
    exact (mem_firsts_iff.1 mem).1 (old a (firsts_sublist.subset mem))

end Firsts

section InOrder
variable {α β : Type} {given : α → Option β} {key : β → String} {name : α → String}
  {seen seen' : List String} {a : α} {as : List α}

/-- The key of what an entry gives is the entry's own name, or was there before. -/
def OwnOrSeen (given : α → Option β) (key : β → String) (name : α → String) (seen : List String)
    (as : List α) : Prop :=
  ∀ before a after, as = before ++ a :: after → ∀ b, given a = some b →
    key b = name a ∨ key b ∈ seen ∨ ∃ a' ∈ before, ∃ b', given a' = some b' ∧ key b' = key b

theorem OwnOrSeen.tail (own : OwnOrSeen given key name seen (a :: as))
    (old : ∀ k ∈ seen, k ∈ seen') (first : ∀ b, given a = some b → key b ∈ seen') :
    OwnOrSeen given key name seen' as := by
  rintro before x after rfl b gives
  rcases own (a :: before) x after rfl b gives with here | there | ⟨a', mem, b', gives', same⟩
  · exact .inl here
  · exact .inr (.inl (old _ there))
  · rcases List.mem_cons.1 mem with rfl | mem
    · exact .inr (.inl (same ▸ first b' gives'))
    · exact .inr (.inr ⟨a', mem, b', gives', same⟩)

theorem OwnOrSeen.sublist (own : OwnOrSeen given key name seen as) :
    ((firsts key seen (as.filterMap given)).map key).Sublist (as.map name) := by
  induction as generalizing seen with
  | nil => exact List.Sublist.refl _
  | cons a as ih =>
    rw [List.map_cons]
    cases gives : given a with
    | none =>
      rw [List.filterMap_cons_none gives]
      have later : OwnOrSeen given key name seen as :=
        own.tail (fun _ mem => mem) (by simp [gives])
      exact (ih later).cons (name a)
    | some b =>
      rw [List.filterMap_cons_some gives, firsts]
      split
      · rename_i there
        have later : OwnOrSeen given key name seen as :=
          own.tail (fun _ mem => mem) (by simpa [gives] using there)
        exact (ih later).cons (name a)
      · rename_i new
        have later : OwnOrSeen given key name (seen ++ [key b]) as :=
          own.tail (fun _ mem => List.mem_append_left _ mem) (by simp [gives])
        rcases own [] a as rfl b gives with here | there | ⟨a', mem, -⟩
        · rw [List.map_cons, ← here]
          exact (ih later).cons_cons (key b)
        · exact absurd there new
        · cases mem

end InOrder

/-! ## Lists that grow -/

section Extend
variable {α : Type} {key : α → String} {as bs cs : List α}

def extend (key : α → String) (as bs : List α) : List α :=
  as ++ firsts key (as.map key) bs

theorem nil_extend : extend key [] as = firsts key [] as :=
  rfl

theorem extend_nil : extend key as [] = as :=
  List.append_nil as

theorem prefix_extend : as <+: extend key as bs :=
  List.prefix_append _ _

theorem mem_map_extend {k : String} :
    k ∈ (extend key as bs).map key ↔ k ∈ as.map key ∨ k ∈ bs.map key := by
  rw [extend, List.map_append, List.mem_append, mem_map_firsts]
  by_cases old : k ∈ as.map key <;> simp [old]

theorem extend_append : extend key as (bs ++ cs) = extend key (extend key as bs) cs := by
  simp only [extend, firsts_append, List.map_append, List.append_assoc]

theorem extend_assoc : extend key (extend key as bs) cs = extend key as (extend key bs cs) := by
  -- what is not new behind `bs` is not new behind `as` and `bs` either
  have old : ∀ k ∈ bs.map key, k ∈ (extend key as bs).map key :=
    fun _ mem => mem_map_extend.2 (.inr mem)
  calc
    extend key (extend key as bs) cs
      = extend key as bs ++ firsts key ((extend key as bs).map key) cs := rfl
    _ = extend key as bs ++
          firsts key ((extend key as bs).map key) (firsts key (bs.map key) cs) := by
        rw [firsts_firsts old]
    _ = extend key as (extend key bs cs) := extend_append.symm

theorem extend_eq_self_iff : extend key as bs = as ↔ ∀ b ∈ bs, key b ∈ as.map key := by
  rw [extend, List.append_right_eq_self, firsts_eq_nil_iff]

theorem nil_extend_eq_self_iff : extend key [] as = as ↔ (as.map key).Nodup := by
  rw [nil_extend]
  constructor
  · exact fun same => same ▸ nodup_map_firsts
  · exact fun distinct => firsts_eq_self distinct fun _ _ => List.not_mem_nil

end Extend

/-! ## Records -/

def success? : Verdict → Option String
  | .success id => some id
  | .error _ => none

theorem isSome_errorFor?_iff {r : Report} {id : String} :
    (r.errorFor? id).isSome = true ↔ id ∈ r.errors.map ErrorResult.fieldId := by
  simp [errorFor?]

theorem hasSuccess_iff {r : Report} {id : String} :
    r.hasSuccess id = true ↔ id ∈ r.successes := by
  simp [hasSuccess]

theorem record_eq (r : Report) (v : Verdict) : r.record v =
    ⟨extend ErrorResult.fieldId r.errors v.error?.toList,
      extend id r.successes (success? v).toList⟩ := by
  cases v with
  | success name =>
    have errors : extend ErrorResult.fieldId r.errors [] = r.errors := extend_nil
    simp only [record, hasSuccess_iff, Verdict.error?, success?, Option.toList, errors]
    split <;> simp_all [extend, firsts]
  | error e =>
    have successes : extend id r.successes [] = r.successes := extend_nil
    simp only [record, isSome_errorFor?_iff, Verdict.error?, success?, Option.toList, successes]
    split <;> simp_all [extend, firsts]

theorem recordAll_eq (r : Report) (vs : List Verdict) : r.recordAll vs =
    ⟨extend ErrorResult.fieldId r.errors (vs.filterMap Verdict.error?),
      extend id r.successes (vs.filterMap success?)⟩ := by
  induction vs generalizing r with
  | nil =>
    simp only [List.filterMap_nil, extend_nil]
    rfl
  | cons v vs ih =>
    have errors : (v :: vs).filterMap Verdict.error? =
        v.error?.toList ++ vs.filterMap Verdict.error? := by
      cases v <;> rfl
    have successes : (v :: vs).filterMap success? =
        (success? v).toList ++ vs.filterMap success? := by
      cases v <;> rfl
    have first : r.recordAll (v :: vs) = (r.record v).recordAll vs := rfl
    rw [first, ih, record_eq, errors, successes, extend_append, extend_append]

variable {fields : List Field} {s : Snapshot} {c : Catalog}

theorem errors_evaluateForm : (evaluateForm fields s c).errors =
    firsts ErrorResult.fieldId [] (fields.filterMap fun f => (f.evaluate s c).error?) := by
  rw [evaluateForm, recordAll_eq, List.filterMap_map]
  rfl

theorem successes_evaluateForm : (evaluateForm fields s c).successes =
    firsts id [] (fields.filterMap fun f => success? (f.evaluate s c)) := by
  rw [evaluateForm, recordAll_eq, List.filterMap_map, List.filterMap_map]
  rfl

theorem error?_eq_some_iff {v : Verdict} {e : ErrorResult} : v.error? = some e ↔ v = .error e := by
  cases v <;> simp [Verdict.error?]

theorem exists_evaluate_of_mem_errors {e : ErrorResult}
    (mem : e ∈ (evaluateForm fields s c).errors) : ∃ f ∈ fields, f.evaluate s c = .error e := by
  rw [errors_evaluateForm] at mem
  obtain ⟨f, fMem, found⟩ := List.mem_filterMap.1 (firsts_sublist.subset mem)
  exact ⟨f, fMem, error?_eq_some_iff.1 found⟩

end FormRules.Proofs.Reporting
