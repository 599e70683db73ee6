import FormRules.Proofs.Reading.Text
import FormRules.Rule.Declaration

/-!
# Joined rule texts

Two rule texts with a bar between them have the tokens of the first one and then those of the second
one. So they are read as the rules of both, or what is wrong with either is reported.
-/

namespace FormRules.Proofs.Reading
open Text Declaration

section Results
variable {ε α : Type}

theorem errorsOf_append (first second : List (Except ε α)) :
    errorsOf (first ++ second) = errorsOf first ++ errorsOf second :=
  List.filterMap_append

theorem valuesOf_append (first second : List (Except ε α)) :
    valuesOf (first ++ second) = valuesOf first ++ valuesOf second :=
  List.filterMap_append

def both : Except (List ε) (List α) → Except (List ε) (List α) → Except (List ε) (List α)
  | .ok first, .ok second => .ok (first ++ second)
  | .ok _, .error errors => .error errors
  | .error errors, .ok _ => .error errors
  | .error errors, .error others => .error (errors ++ others)

theorem both_ok_nil (result : Except (List ε) (List α)) : both result (.ok []) = result := by
  cases result <;> simp [both]

theorem ok_nil_both (result : Except (List ε) (List α)) : both (.ok []) result = result := by
  cases result <;> simp [both]

end Results

theorem splitOn_append_cons (sep : Char) (first second : List Char) :
    splitOn sep (first ++ sep :: second) = splitOn sep first ++ splitOn sep second := by
  simp only [splitOn_eq, List.splitOn_append_cons_self]

theorem tokens_append (first second : String) :
    tokens (first ++ "|" ++ second) = tokens first ++ tokens second := by
  have joined : (first ++ "|" ++ second).toList = first.toList ++ '|' :: second.toList := by
    simp [String.toList_append]
  simp only [tokens, joined, splitOn_append_cons, List.filter_append]

theorem tokens_of_isBlank {text : String} (blank : isBlank text.toList = true) :
    tokens text = [] := by
  rw [isBlank, List.all_eq_true] at blank
  apply List.filter_eq_nil_iff.2
  intro token mem
  have spaces : isBlank token = true := by
    rw [isBlank, List.all_eq_true]
    exact fun c inside => blank c (mem_of_mem_splitOn mem inside).1
  simp [spaces]

theorem readTokens_append (field first second : String) :
    readTokens field (first ++ "|" ++ second) =
      readTokens field first ++ readTokens field second := by
  simp only [readTokens, tokens_append, List.map_append]

theorem read_append (field first second : String) :
    Declaration.read field (first ++ "|" ++ second) =
      both (Declaration.read field first) (Declaration.read field second) := by
  simp only [Declaration.read, readTokens_append, errorsOf_append, valuesOf_append]
  cases errorsOf (readTokens field first) with
  | nil => cases errorsOf (readTokens field second) <;> simp [both]
  | cons e errors => cases errorsOf (readTokens field second) <;> simp [both]

theorem read_of_isBlank (field : String) {text : String} (blank : isBlank text.toList = true) :
    Declaration.read field text = .ok [] := by
  simp [Declaration.read, readTokens, tokens_of_isBlank blank, errorsOf, valuesOf]

theorem read_append_blank (field text : String) {blankText : String}
    (blank : isBlank blankText.toList = true) :
    Declaration.read field (text ++ "|" ++ blankText) = Declaration.read field text := by
  rw [read_append, read_of_isBlank field blank, both_ok_nil]

theorem read_blank_append (field text : String) {blankText : String}
    (blank : isBlank blankText.toList = true) :
    Declaration.read field (blankText ++ "|" ++ text) = Declaration.read field text := by
  rw [read_append, read_of_isBlank field blank, ok_nil_both]

end FormRules.Proofs.Reading
