import FormRules.Proofs.Reading.Joined
import FormRules.Proofs.Reading.Names
import FormRules.Proofs.Reading.WellFormed
import Mathlib.Logic.Relation

/-!
# White space in tokens

White space counts only inside the words that a rule takes over from its token. Everywhere else it
may be put in or left out, and the token stands for the same rule.
-/

namespace FormRules.Proofs.Reading
open Text

variable {c sep : Char} {cs raw other token spaces before after : List Char} {n : RuleName}
  {r : Rule}

theorem strip_of_isBlank (blank : isBlank spaces = true) : strip spaces = [] :=
  strip_eq_nil_iff.2 blank

theorem isSpace_of_isBlank (blank : isBlank spaces = true) (mem : c ∈ spaces) : isSpace c = true :=
  isBlank_iff.1 blank c mem

theorem trim_blank_append (blank : isBlank spaces = true) : trim (spaces ++ cs) = trim cs := by
  rw [trim_eq_rdropWhile, List.dropWhile_append_of_pos (isBlank_iff.1 blank), ← trim_eq_rdropWhile]

theorem trim_append_blank (blank : isBlank spaces = true) : trim (cs ++ spaces) = trim cs := by
  have ending (ds : List Char) :
      (ds ++ spaces).rdropWhile isSpace = ds.rdropWhile isSpace := by
    rw [List.rdropWhile, List.reverse_append, List.dropWhile_append_of_pos, ← List.rdropWhile]
    exact fun c mem => isSpace_of_isBlank blank (List.mem_reverse.1 mem)
  rw [trim_eq_rdropWhile, trim_eq_rdropWhile, List.dropWhile_append]
  split
  · rename_i nothing
    rw [List.dropWhile_eq_nil_iff.2 (isBlank_iff.1 blank), List.isEmpty_iff.1 nothing]
  · exact ending _

/-! ## The shape of a token -/

/-- How a token stands for a rule, with white space around it. -/
inductive Stands : List Char → Rule → Prop where
  | bare {cs : List Char} {n : RuleName} {r : Rule} (open_ : '[' ∉ cs)
      (name : strip cs = n.name.toList) (given : Rule.ofName n = .ok r) : Stands cs r
  | parameter {head raw spaces : List Char} {n : RuleName} {r : Rule} (first : '[' ∉ head)
      (name : strip head = n.name.toList) (plain : ∀ c ∈ raw, Rule.isBracket c = false)
      (blank : isBlank spaces = true) (given : Rule.ofParam raw n = .ok r) :
      Stands (head ++ '[' :: (raw ++ ']' :: spaces)) r

theorem stands_of_reads (reads : Reads (trim token) r) : Stands token r := by
  obtain ⟨start, ending, split, blank, blank'⟩ := exists_blank_trim_blank token
  generalize trim token = cs at reads split
  subst split
  have noStart := open_not_mem_of_isBlank blank
  cases reads with
  | bare open_ name given =>
    refine .bare ?_ ?_ given
    · simp [noStart, open_, open_not_mem_of_isBlank blank']
    · rw [strip_append, strip_append, strip_of_isBlank blank, strip_of_isBlank blank', name]
      simp
  | @parameter head raw n _ first name plain given =>
    have shape : start ++ (head ++ '[' :: (raw ++ [']']) ++ ending) =
        (start ++ head) ++ '[' :: (raw ++ ']' :: ending) := by simp
    rw [shape]
    refine .parameter ?_ ?_ plain blank' given
    · simp [noStart, first]
    · rw [strip_append, strip_of_isBlank blank, name, List.nil_append]

theorem not_isSpace_of_head?_trimStart (first : (trimStart cs).head? = some c) :
    isSpace c = false := by
  have stopped := List.head?_dropWhile_not isSpace cs
  rw [← trimStart, first] at stopped
  exact stopped

theorem trimmed_trimStart_bracketed (cs raw : List Char) :
    Trimmed (trimStart cs ++ '[' :: (raw ++ [']'])) := by
  constructor
  · intro c first
    rw [List.head?_append, Option.or_eq_some_iff] at first
    rcases first with inside | ⟨-, bracket⟩
    · exact not_isSpace_of_head?_trimStart inside
    · cases bracket
      rfl
  · intro c last
    rw [← List.cons_append, ← List.append_assoc, List.getLast?_concat] at last
    cases last
    rfl

theorem reads_of_stands (stands : Stands token r) : Reads (trim token) r := by
  cases stands with
  | bare open_ name given =>
    exact .bare (fun mem => open_ (mem_of_mem_trim mem)) (by rw [strip_trim, name]) given
  | @parameter head raw spaces n _ first name plain blank given =>
    have lead : isBlank (head.takeWhile isSpace) = true := List.all_takeWhile
    have split : head.takeWhile isSpace ++ trimStart head = head := List.takeWhile_append_dropWhile
    have shape : head ++ '[' :: (raw ++ ']' :: spaces) =
        head.takeWhile isSpace ++ ((trimStart head ++ '[' :: (raw ++ [']'])) ++ spaces) := by
      conv_lhs => rw [← split]
      simp
    rw [shape, trim_blank_append lead, trim_append_blank blank,
      (trimmed_trimStart_bracketed head raw).trim_eq]
    refine .parameter (fun mem => first ((List.dropWhile_suffix _).subset mem)) ?_ plain given
    rw [← name, ← split, strip_append, strip_of_isBlank lead, List.nil_append, split]

theorem ofChars_eq_ok_iff_stands : Rule.ofChars token = .ok r ↔ Stands token r :=
  ofChars_eq_ok_iff.trans ⟨stands_of_reads, reads_of_stands⟩

def wordRules : List RuleName :=
  [.inList, .equalTo, .differentFrom]

/-- All but the words is read without white space, and the words are trimmed. -/
theorem ofParam_congr (solid : strip raw = strip other)
    (words : n ∈ wordRules → (splitOn ',' raw).map trim = (splitOn ',' other).map trim) :
    Rule.ofParam raw n = .ok r ↔ Rule.ofParam other n = .ok r := by
  cases n with
  | required => rfl
  | requiredOneOf => rfl
  | pattern p => rfl
  | inList =>
    simp only [Rule.ofParam, orInvalid_eq_ok_iff, Rule.listItems?, words (by decide)]
  | equalTo =>
    simp only [Rule.ofParam, orInvalid_eq_ok_iff, Rule.fieldRef?, words (by decide)]
  | differentFrom =>
    simp only [Rule.ofParam, orInvalid_eq_ok_iff, Rule.fieldRef?, words (by decide)]
  | _ =>
    simp only [Rule.ofParam, orInvalid_eq_ok_iff, Rule.lengthBound?, Rule.lengthRange?,
      Rule.threshold?, solid]

theorem name_of_ofParam (given : Rule.ofParam raw n = .ok r) : r.name = n := by
  cases n with
  | required => cases given
  | requiredOneOf => cases given
  | pattern p => cases given
  | _ =>
    obtain ⟨value, -, rfl⟩ := Option.map_eq_some_iff.1 (orInvalid_eq_ok_iff.1 given)
    rfl

/-! ## Without any white space -/

theorem isBracket_iff : Rule.isBracket c = true ↔ c = '[' ∨ c = ']' := by
  simp [Rule.isBracket]

theorem mem_strip : c ∈ strip cs ↔ c ∈ cs ∧ isSpace c = false := by
  simp [strip]

theorem strip_cons (solid : isSpace c = false) : strip (c :: cs) = c :: strip cs := by
  simp [strip, solid]

theorem open_mem_strip : '[' ∈ strip cs ↔ '[' ∈ cs :=
  mem_strip.trans (and_iff_left rfl)

theorem plain_strip : (∀ c ∈ strip raw, Rule.isBracket c = false) ↔
    ∀ c ∈ raw, Rule.isBracket c = false := by
  constructor
  · intro plain c mem
    by_contra bracket
    have solid : isSpace c = false := by
      rcases isBracket_iff.1 (Bool.not_eq_false _ ▸ bracket) with rfl | rfl <;> rfl
    exact bracket (plain c (mem_strip.2 ⟨mem, solid⟩))
  · exact fun plain c mem => plain c (mem_strip.1 mem).1

theorem exists_cut_of_strip (cut : strip cs = before ++ c :: after) :
    ∃ a b, cs = a ++ c :: b ∧ strip a = before ∧ strip b = after := by
  obtain ⟨a, rest, rfl, start, ending⟩ := List.filter_eq_append_iff.1 cut
  obtain ⟨gap, b, rfl, skipped, -, last⟩ := List.filter_eq_cons_iff.1 ending
  have nothing : strip gap = [] := List.filter_eq_nil_iff.2 skipped
  refine ⟨a ++ gap, b, (List.append_assoc ..).symm, ?_, last⟩
  rw [strip_append, nothing, List.append_nil]
  exact start

theorem stands_strip_iff (solid : r.name ∉ wordRules) :
    Stands (strip token) r ↔ Stands token r := by
  have param {raw : List Char} {n : RuleName} (given : Rule.ofParam raw n = .ok r)
      {other : List Char} (same : strip raw = strip other) : Rule.ofParam other n = .ok r :=
    (ofParam_congr same fun word => absurd (name_of_ofParam given ▸ word) solid).1 given
  constructor
  · intro stands
    generalize stripped : strip token = cs at stands
    cases stands with
    | bare open_ name given =>
      rw [← stripped] at open_ name
      exact .bare (mt open_mem_strip.2 open_) (strip_strip token ▸ name) given
    | parameter first name plain blank given =>
      obtain ⟨head, rest, rfl, rfl, cut⟩ := exists_cut_of_strip stripped
      obtain ⟨raw, spaces, rfl, rfl, rfl⟩ := exists_cut_of_strip cut
      rw [← strip_eq_nil_iff, strip_strip, strip_eq_nil_iff] at blank
      exact .parameter (mt open_mem_strip.2 first) (strip_strip head ▸ name)
        (plain_strip.1 plain) blank (param given (strip_strip raw))
  · intro stands
    cases stands with
    | bare open_ name given =>
      exact .bare (mt open_mem_strip.1 open_) ((strip_strip token).trans name) given
    | @parameter head raw spaces n _ first name plain blank given =>
      rw [strip_append, strip_cons rfl, strip_append, strip_cons rfl]
      refine .parameter (mt open_mem_strip.1 first) ((strip_strip head).trans name)
        (plain_strip.2 plain) ?_ (param given (strip_strip raw).symm)
      rw [strip_of_isBlank blank]
      rfl

/-! ## White space beside separators -/

/-- The last part of one text and the first part of the next grow together. -/
theorem exists_splitOn_append (sep : Char) (cs : List Char) : ∃ init last,
    splitOn sep cs = init ++ [last] ∧ ∀ first others after,
      splitOn sep after = first :: others →
        splitOn sep (cs ++ after) = init ++ (last ++ first) :: others := by
  induction cs with
  | nil => exact ⟨[], [], rfl, fun first others after parts => parts⟩
  | cons c cs ih =>
    obtain ⟨init, last, parts, append⟩ := ih
    by_cases cut : c = sep
    · refine ⟨[] :: init, last, by simp [splitOn, cut, parts], fun first others after next => ?_⟩
      simp [splitOn, cut, append first others after next]
    · cases init with
      | nil =>
        refine ⟨[], c :: last, by simp [splitOn, cut, parts], fun first others after next => ?_⟩
        simp [splitOn, cut, append first others after next]
      | cons part init =>
        refine ⟨(c :: part) :: init, last, by simp [splitOn, cut, parts],
          fun first others after next => ?_⟩
        simp [splitOn, cut, append first others after next]

theorem splitOn_of_isBlank (blank : isBlank spaces = true) (sign : isSpace sep = false) :
    splitOn sep spaces = [spaces] := by
  rw [splitOn_eq]
  apply List.splitOn_eq_singleton
  intro mem
  rw [isSpace_of_isBlank blank mem] at sign
  cases sign

theorem splitOn_blank_append {first : List Char} {others : List (List Char)}
    (blank : isBlank spaces = true) (sign : isSpace sep = false)
    (parts : splitOn sep after = first :: others) :
    splitOn sep (spaces ++ after) = (spaces ++ first) :: others := by
  obtain ⟨init, last, whole, append⟩ := exists_splitOn_append sep spaces
  have same : [] ++ [spaces] = init ++ [last] := by rw [← whole, splitOn_of_isBlank blank sign]; rfl
  obtain ⟨rfl, rfl⟩ := List.append_singleton_inj.1 same
  exact append first others after parts

inductive Beside : List Char → List Char → Prop where
  | start {after : List Char} : Beside [] after
  | ending {before : List Char} : Beside before []
  | beforeComma {before after : List Char} : Beside before (',' :: after)
  | afterComma {before after : List Char} : Beside (before ++ [',']) after

theorem Beside.last_or_first {init others : List (List Char)} {last first : List Char}
    (beside : Beside before after) (ends : splitOn ',' before = init ++ [last])
    (begins : splitOn ',' after = first :: others) : last = [] ∨ first = [] := by
  have final := congrArg List.getLast? ends
  rw [List.getLast?_concat] at final
  cases beside with
  | start =>
    cases final
    exact .inl rfl
  | ending =>
    cases begins
    exact .inr rfl
  | beforeComma =>
    cases begins
    exact .inr rfl
  | afterComma =>
    rw [splitOn_append_cons, splitOn, List.getLast?_concat] at final
    cases final
    exact .inl rfl

theorem map_trim_splitOn_of_beside (beside : Beside before after)
    (blank : isBlank spaces = true) :
    (splitOn ',' (before ++ (spaces ++ after))).map trim =
      (splitOn ',' (before ++ after)).map trim := by
  obtain ⟨init, last, ends, append⟩ := exists_splitOn_append ',' before
  obtain ⟨first, others, begins⟩ := List.exists_cons_of_ne_nil (splitOn_ne_nil ',' after)
  have joined : trim (last ++ (spaces ++ first)) = trim (last ++ first) := by
    rcases beside.last_or_first ends begins with rfl | rfl
    · exact trim_blank_append blank
    · rw [List.append_nil, List.append_nil, trim_append_blank blank]
  rw [append _ _ _ (splitOn_blank_append blank rfl begins), append _ _ _ begins]
  simp [joined]

/-! ## Tokens spaced in other ways -/

inductive Gap : List Char → List Char → Prop where
  /-- In front of the token, in its name, or in front of the bracket. -/
  | inName {before after : List Char} (first : '[' ∉ before) : Gap before after
  | afterBracket {before after : List Char} : Gap (before ++ ['[']) after
  | beforeBracket {before after : List Char} : Gap before (']' :: after)
  | beforeComma {before after : List Char} : Gap before (',' :: after)
  | afterComma {before after : List Char} : Gap (before ++ [',']) after
  | afterToken {before : List Char} : Gap before []

inductive Respaced : List Char → List Char → Prop where
  | between {before after spaces others : List Char} (gap : Gap before after)
      (blank : isBlank spaces = true) (blank' : isBlank others = true) :
      Respaced (before ++ (spaces ++ after)) (before ++ (others ++ after))

theorem Respaced.symm {token other : List Char} (respaced : Respaced token other) :
    Respaced other token := by
  cases respaced with
  | between gap blank blank' => exact .between gap blank' blank

theorem strip_between (blank : isBlank spaces = true) :
    strip (before ++ (spaces ++ after)) = strip (before ++ after) := by
  rw [strip_append, strip_append, strip_append, strip_of_isBlank blank, List.nil_append]

theorem append_blank_append_eq {x y : List Char} (blank : isBlank spaces = true)
    (solid : isSpace c = false) (same : before ++ (spaces ++ after) = x ++ c :: y) :
    (∃ z, x = before ++ (spaces ++ z) ∧ after = z ++ c :: y) ∨
      ∃ z, before = x ++ c :: z ∧ y = z ++ (spaces ++ after) := by
  have outside : c ∉ spaces := by
    intro mem
    rw [isSpace_of_isBlank blank mem] at solid
    cases solid
  rcases List.append_eq_append_iff.1 same with ⟨p, rfl, rest⟩ | ⟨p, rfl, rest⟩
  · rcases List.append_eq_append_iff.1 rest with ⟨q, rfl, behind⟩ | ⟨q, rfl, behind⟩
    · exact .inl ⟨q, rfl, behind⟩
    · cases q with
      | nil => exact .inl ⟨[], by simp, behind.symm⟩
      | cons d q =>
        cases behind
        simp at outside
  · cases p with
    | nil =>
      cases spaces with
      | nil => exact .inl ⟨[], by simp, rest.symm⟩
      | cons d spaces =>
        cases rest
        simp at outside
    | cons d p =>
      cases rest
      exact .inr ⟨p, rfl, rfl⟩

theorem Gap.beside {head a b tail : List Char}
    (gap : Gap (head ++ '[' :: a) (b ++ ']' :: tail))
    (plain : ∀ c ∈ a ++ b, Rule.isBracket c = false) : Beside a b := by
  generalize start : head ++ '[' :: a = before at gap
  generalize ending : b ++ ']' :: tail = after at gap
  rw [List.forall_mem_append] at plain
  have last := congrArg List.getLast? start
  rw [List.getLast?_append_of_ne_nil head (List.cons_ne_nil _ _)] at last
  cases gap with
  | inName first =>
    rw [← start] at first
    simp at first
  | afterBracket =>
    rcases List.eq_nil_or_concat' a with rfl | ⟨a, d, rfl⟩
    · exact .start
    · rw [List.getLast?_concat, ← List.cons_append, List.getLast?_concat] at last
      cases last
      exact absurd (plain.1 '[' (by simp)) (by decide)
  | beforeBracket =>
    cases b with
    | nil => exact .ending
    | cons d b =>
      cases ending
      exact absurd (plain.2 ']' List.mem_cons_self) (by decide)
  | beforeComma =>
    cases b with
    | nil => cases ending
    | cons d b =>
      cases ending
      exact .beforeComma
  | afterComma =>
    rcases List.eq_nil_or_concat' a with rfl | ⟨a, d, rfl⟩
    · rw [List.getLast?_concat] at last
      cases last
    · rw [List.getLast?_concat, ← List.cons_append, List.getLast?_concat] at last
      cases last
      exact .afterComma
  | afterToken =>
    cases b <;> cases ending

theorem Stands.respaced (stands : Stands token r) (respaced : Respaced token other) :
    Stands other r := by
  cases respaced with
  | @between before after spaces others gap blank blank' =>
  have same (x y : List Char) : strip (x ++ (others ++ y)) = strip (x ++ (spaces ++ y)) := by
    rw [strip_between blank, strip_between blank']
  generalize spaced : before ++ (spaces ++ after) = cs at stands
  cases stands with
  | bare open_ name given =>
    subst spaced
    refine .bare ?_ ((same _ _).trans name) given
    rwa [← open_mem_strip, same, open_mem_strip]
  | @parameter head raw tail n _ first name plain blankTail given =>
    -- the white space is in front of the opening bracket, between the two or behind the closing one
    rcases append_blank_append_eq blank rfl spaced with ⟨z, rfl, rfl⟩ | ⟨z, rfl, inner⟩
    · have shape : before ++ (others ++ (z ++ '[' :: (raw ++ ']' :: tail))) =
          (before ++ (others ++ z)) ++ '[' :: (raw ++ ']' :: tail) := by simp
      rw [shape]
      refine .parameter ?_ ((same _ _).trans name) plain blankTail given
      rwa [← open_mem_strip, same, open_mem_strip]
    rcases append_blank_append_eq blank rfl inner.symm with ⟨y, rfl, rfl⟩ | ⟨y, rfl, rfl⟩
    · have beside : Beside z y := by
        refine gap.beside (plain_strip.1 ?_)
        rwa [← strip_between blank, plain_strip]
      have words := map_trim_splitOn_of_beside beside blank
      rw [← map_trim_splitOn_of_beside beside blank'] at words
      have shape : head ++ '[' :: z ++ (others ++ (y ++ ']' :: tail)) =
          head ++ '[' :: ((z ++ (others ++ y)) ++ ']' :: tail) := by simp
      rw [shape]
      refine .parameter first name ?_ blankTail ?_
      · rwa [← plain_strip, same, plain_strip]
      · exact (ofParam_congr (same z y).symm fun _ => words).1 given
    · have shape : head ++ '[' :: (raw ++ ']' :: y) ++ (others ++ after) =
          head ++ '[' :: (raw ++ ']' :: (y ++ (others ++ after))) := by simp
      rw [shape]
      refine .parameter first name plain ?_ given
      rwa [← strip_eq_nil_iff, same, strip_eq_nil_iff]

theorem stands_iff_of_respacings (respacings : Relation.ReflTransGen Respaced token other) :
    Stands token r ↔ Stands other r := by
  induction respacings with
  | refl => rfl
  | tail _ last ih => exact ih.trans ⟨fun stands => stands.respaced last, fun stands =>
      stands.respaced last.symm⟩

theorem white_space_counts_in_words_only :
    (∀ (token : String) (r : Rule), r.name ∉ wordRules →
      (Rule.ofText token = .ok r ↔ Rule.ofText (String.ofList (strip token.toList)) = .ok r)) ∧
    ∀ (token other : String) (r : Rule),
      Relation.ReflTransGen Respaced token.toList other.toList →
        (Rule.ofText token = .ok r ↔ Rule.ofText other = .ok r) := by
  simp only [Rule.ofText, String.toList_ofList, ofChars_eq_ok_iff_stands]
  exact ⟨fun token r solid => (stands_strip_iff solid).symm,
    fun token other r respacings => stands_iff_of_respacings respacings⟩

theorem spaced_lengths_and_colors :
    Rule.ofText " range_ length [ 2 0,\u20093 0 ]" = .ok (.rangeLength 20 30) ∧
      Rule.ofText "in_\u3000list[ red\t,light green]" = .ok (.inList ["red", "light green"]) := by
  have range : Rule.ofText "range_length[20,30]" = .ok (.rangeLength 20 30) := by decide
  have colors : Rule.ofText "in_list[red,light green]" = .ok (.inList ["red", "light green"]) := by
    decide
  have name : Respaced "in_list[red,light green]".toList
      "in_\u3000list[red,light green]".toList := by
    simpa using @Respaced.between "in_".toList "list[red,light green]".toList [] ['\u3000']
      (.inName (by simp)) rfl rfl
  have bracket : Respaced "in_\u3000list[red,light green]".toList
      "in_\u3000list[ red,light green]".toList := by
    simpa using @Respaced.between ("in_\u3000list".toList ++ ['[']) "red,light green]".toList
      [] [' '] .afterBracket rfl rfl
  have comma : Respaced "in_\u3000list[ red,light green]".toList
      "in_\u3000list[ red\t,light green]".toList := by
    simpa using @Respaced.between "in_\u3000list[ red".toList (',' :: "light green]".toList)
      [] ['\t'] .beforeComma rfl rfl
  constructor
  · exact (white_space_counts_in_words_only.1 " range_ length [ 2 0,\u20093 0 ]" _ (by decide)).2
      range
  · exact (white_space_counts_in_words_only.2 _ _ _
      (((Relation.ReflTransGen.single name).tail bracket).tail comma)).1 colors

/-- White space inside of a word makes it another word. -/
example : Rule.ofText "in_list[light green]" ≠ Rule.ofText "in_list[lightgreen]" := by decide

end FormRules.Proofs.Reading
