import FormRules.Proofs.Reading.Text
import FormRules.Rule.Reader

/-!
# Tokens

`Reads` says how a trimmed token stands for a rule: it is the name of the rule, or the name and a
parameter in brackets. White space inside the name does not count.
-/

namespace FormRules.Proofs.Reading
open Text

inductive Reads : List Char → Rule → Prop where
  | bare {cs n r} (open_ : '[' ∉ cs) (name : strip cs = n.name.toList)
      (given : Rule.ofName n = .ok r) : Reads cs r
  | parameter {head raw n r} (first : '[' ∉ head) (name : strip head = n.name.toList)
      (plain : ∀ c ∈ raw, Rule.isBracket c = false) (given : Rule.ofParam raw n = .ok r) :
      Reads (head ++ '[' :: (raw ++ [']'])) r

variable {c : Char} {cs raw token : List Char} {n : RuleName} {r : Rule}

theorem ruleName_eq_ok_iff : Rule.ruleName cs = .ok n ↔ strip cs = n.name.toList := by
  unfold Rule.ruleName
  constructor
  · intro found
    cases named : RuleName.ofName? (String.ofList (strip cs)) with
    | none => simp [named] at found
    | some m =>
      simp only [named, Except.ok.injEq] at found
      rw [← found, RuleName.name_of_ofName? named, String.toList_ofList]
  · intro same
    rw [same, String.ofList_toList, RuleName.ofName?_name]

theorem name_ne_empty (n : RuleName) : n.name ≠ "" := by
  have all : ∀ n ∈ RuleName.all, n.name ≠ "" := by decide
  exact all n (RuleName.mem_all n)

theorem plain_of_mem_name (n : RuleName) (mem : c ∈ n.name.toList) :
    isSpace c = false ∧ Rule.isBracket c = false ∧ c ≠ '|' := by
  have all : ∀ n ∈ RuleName.all,
      (n.name.toList.all fun c => !isSpace c && !Rule.isBracket c && c != '|') = true := by
    decide +kernel
  have plain := List.all_eq_true.1 (all n (RuleName.mem_all n)) c mem
  simpa [and_assoc] using plain

theorem strip_name (n : RuleName) : strip n.name.toList = n.name.toList :=
  strip_eq_self fun _ mem => (plain_of_mem_name n mem).1

theorem open_not_mem_name (n : RuleName) : '[' ∉ n.name.toList := by
  intro mem
  have plain := (plain_of_mem_name n mem).2.1
  cases plain

theorem bracketed?_eq_some_iff :
    Rule.bracketed? cs = some raw ↔ cs = raw ++ [']'] ∧ ∀ c ∈ raw, Rule.isBracket c = false := by
  have plain (inner : List Char) :
      inner.any Rule.isBracket = false ↔ ∀ c ∈ inner, Rule.isBracket c = false := by
    simp [List.any_eq_false]
  unfold Rule.bracketed?
  constructor
  · intro found
    cases cut : dropLast? ']' cs with
    | none => simp [cut] at found
    | some inner =>
      rw [cut] at found
      simp only at found
      split at found
      · cases found
      · rename_i free
        cases found
        exact ⟨dropLast?_eq_some_iff.1 cut, (plain raw).1 (Bool.eq_false_iff.2 free)⟩
  · rintro ⟨closed, free⟩
    rw [dropLast?_eq_some_iff.2 closed]
    simp [(plain raw).2 free]

theorem bind_eq_ok_iff {ε α β : Type} {x : Except ε α} {f : α → Except ε β} {b : β} :
    (x >>= f) = .ok b ↔ ∃ a, x = .ok a ∧ f a = .ok b := by
  cases x <;> simp [bind, Except.bind]

theorem reads_of_ofTrimmed (read : Rule.ofTrimmed cs = .ok r) : Reads cs r := by
  unfold Rule.ofTrimmed at read
  split at read
  · rename_i cut
    obtain ⟨n, name, given⟩ := bind_eq_ok_iff.1 read
    exact .bare (splitOnce?_eq_none_iff.1 cut) (ruleName_eq_ok_iff.1 name) given
  · rename_i head rest cut
    split at read
    · cases read
    · rename_i raw closed
      obtain ⟨n, name, given⟩ := bind_eq_ok_iff.1 read
      obtain ⟨rfl, first⟩ := splitOnce?_eq_some_iff.1 cut
      obtain ⟨rfl, plain⟩ := bracketed?_eq_some_iff.1 closed
      exact .parameter first (ruleName_eq_ok_iff.1 name) plain given

theorem ofTrimmed_of_reads (reads : Reads cs r) : Rule.ofTrimmed cs = .ok r := by
  unfold Rule.ofTrimmed
  cases reads with
  | bare open_ name given =>
    rw [splitOnce?_eq_none_iff.2 open_]
    exact bind_eq_ok_iff.2 ⟨_, ruleName_eq_ok_iff.2 name, given⟩
  | parameter first name plain given =>
    rw [splitOnce?_eq_some_iff.2 ⟨rfl, first⟩]
    simp only [bracketed?_eq_some_iff.2 ⟨rfl, plain⟩]
    exact bind_eq_ok_iff.2 ⟨_, ruleName_eq_ok_iff.2 name, given⟩

theorem ofChars_eq_ok_iff : Rule.ofChars token = .ok r ↔ Reads (trim token) r :=
  ⟨reads_of_ofTrimmed, ofTrimmed_of_reads⟩

theorem trimmed_bracketed (n : RuleName) (raw : List Char) :
    Trimmed (n.name.toList ++ '[' :: (raw ++ [']'])) := by
  constructor
  · intro c first
    have filled : n.name.toList ≠ [] := by simpa using name_ne_empty n
    rw [List.head?_append_of_ne_nil _ filled] at first
    exact (plain_of_mem_name n (List.mem_of_head? first)).1
  · intro c last
    rw [← List.cons_append, ← List.append_assoc, List.getLast?_concat, Option.some.injEq] at last
    rw [← last]
    decide

theorem ofChars_bracketed (plain : ∀ c ∈ raw, Rule.isBracket c = false) :
    Rule.ofChars (n.name.toList ++ '[' :: (raw ++ [']'])) = Rule.ofParam raw n := by
  have name : Rule.ruleName n.name.toList = .ok n := ruleName_eq_ok_iff.2 (strip_name n)
  rw [Rule.ofChars, (trimmed_bracketed n raw).trim_eq, Rule.ofTrimmed,
    splitOnce?_eq_some_iff.2 ⟨rfl, open_not_mem_name n⟩]
  simp only [bracketed?_eq_some_iff.2 ⟨rfl, plain⟩, name]
  rfl

end FormRules.Proofs.Reading
