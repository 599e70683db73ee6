import FormRules.Proofs.Reading.Parameters

/-!
# Well-formed rules

`WellFormed` says what the rules are like that some token stands for. Reading gives only these, and
the text of each of them is read as the rule itself.
-/

namespace FormRules.Proofs.Reading
open Text

structure Reference (ref : FieldRef) : Prop where
  target : Word ref.target
  target_ne : ref.target ≠ ""
  label : Word ref.label
  label_ne : ref.label ≠ ""

inductive WellFormed : Rule → Prop where
  | required : WellFormed .required
  | requiredOneOf : WellFormed .requiredOneOf
  | minLength {k} (fits : k < Rule.lengthLimit) : WellFormed (.minLength k)
  | maxLength {k} (fits : k < Rule.lengthLimit) : WellFormed (.maxLength k)
  | exactLength {k} (fits : k < Rule.lengthLimit) : WellFormed (.exactLength k)
  | rangeLength {min max} (increases : min < max) (fits : max < Rule.lengthLimit) :
      WellFormed (.rangeLength min max)
  | comparison {c t} (numeral : Numeral t) : WellFormed (.comparison c t)
  | inList {items} (filled : ∃ item ∈ items, item ≠ "") (words : ∀ item ∈ items, Word item) :
      WellFormed (.inList items)
  | equalTo {ref} (reference : Reference ref) : WellFormed (.equalTo ref)
  | differentFrom {ref} (reference : Reference ref) : WellFormed (.differentFrom ref)
  | date (f) : WellFormed (.date f)
  | pattern (p) : WellFormed (.pattern p)

variable {c : Char} {cs raw token : List Char} {n : RuleName} {r : Rule} {item part : String}
  {items parts : List String} {ref : FieldRef}

theorem Reference.word (reference : Reference ref) (mem : part ∈ [ref.target, ref.label]) :
    Word part := by
  simp only [List.mem_cons, List.not_mem_nil, or_false] at mem
  rcases mem with rfl | rfl
  · exact reference.target
  · exact reference.label

/-! ## Reading -/

theorem orInvalid_eq_ok_iff {read : Option Rule} :
    Rule.orInvalid raw read = .ok r ↔ read = some r := by
  cases read <;> simp [Rule.orInvalid]

theorem exists_part_of_split (split : (splitOn ',' raw).map trim = items.map String.toList)
    (mem : item ∈ items) : ∃ part ∈ splitOn ',' raw, trim part = item.toList := by
  rw [← List.mem_map, split]
  exact List.mem_map_of_mem mem

theorem word_of_split (plain : ∀ c ∈ raw, Rule.isBracket c = false)
    (split : (splitOn ',' raw).map trim = items.map String.toList) (mem : item ∈ items) :
    Word item := by
  obtain ⟨part, partMem, same⟩ := exists_part_of_split split mem
  have word := word_of_mem_splitOn plain partMem
  rwa [same, String.ofList_toList] at word

theorem reference_of_fieldRef? (plain : ∀ c ∈ raw, Rule.isBracket c = false)
    (read : Rule.fieldRef? raw = some ref) : Reference ref := by
  obtain ⟨split, target, label⟩ := fieldRef?_eq_some_iff.1 read
  exact {
    target := word_of_split plain split (by simp)
    target_ne := target
    label := word_of_split plain split (by simp)
    label_ne := label }

theorem wellFormed_of_ofParam (plain : ∀ c ∈ raw, Rule.isBracket c = false)
    (given : Rule.ofParam raw n = .ok r) : WellFormed r := by
  cases n with
  | required => cases given
  | requiredOneOf => cases given
  | pattern p => cases given
  | minLength =>
    obtain ⟨k, read, rfl⟩ := Option.map_eq_some_iff.1 (orInvalid_eq_ok_iff.1 given)
    exact .minLength (bound?_eq_some_iff.1 read).2.2
  | maxLength =>
    obtain ⟨k, read, rfl⟩ := Option.map_eq_some_iff.1 (orInvalid_eq_ok_iff.1 given)
    exact .maxLength (bound?_eq_some_iff.1 read).2.2
  | exactLength =>
    obtain ⟨k, read, rfl⟩ := Option.map_eq_some_iff.1 (orInvalid_eq_ok_iff.1 given)
    exact .exactLength (bound?_eq_some_iff.1 read).2.2
  | rangeLength =>
    obtain ⟨⟨min, max⟩, read, rfl⟩ := Option.map_eq_some_iff.1 (orInvalid_eq_ok_iff.1 given)
    obtain ⟨first, second, -, -, high, increases⟩ := lengthRange?_eq_some_iff.1 read
    exact .rangeLength increases (bound?_eq_some_iff.1 high).2.2
  | comparison c =>
    obtain ⟨t, read, rfl⟩ := Option.map_eq_some_iff.1 (orInvalid_eq_ok_iff.1 given)
    exact .comparison (threshold?_eq_some_iff.1 read).2
  | inList =>
    obtain ⟨items, read, rfl⟩ := Option.map_eq_some_iff.1 (orInvalid_eq_ok_iff.1 given)
    obtain ⟨split, filled⟩ := listItems?_eq_some_iff.1 read
    exact .inList filled fun item mem => word_of_split plain split mem
  | equalTo =>
    obtain ⟨ref, read, rfl⟩ := Option.map_eq_some_iff.1 (orInvalid_eq_ok_iff.1 given)
    exact .equalTo (reference_of_fieldRef? plain read)
  | differentFrom =>
    obtain ⟨ref, read, rfl⟩ := Option.map_eq_some_iff.1 (orInvalid_eq_ok_iff.1 given)
    exact .differentFrom (reference_of_fieldRef? plain read)
  | date =>
    obtain ⟨f, -, rfl⟩ := Option.map_eq_some_iff.1 (orInvalid_eq_ok_iff.1 given)
    exact .date f

theorem wellFormed_of_reads (reads : Reads cs r) : WellFormed r := by
  cases reads with
  | @bare _ n _ open_ name given =>
    cases n <;> cases given
    · exact .required
    · exact .requiredOneOf
    · exact .pattern _
  | parameter first name plain given => exact wellFormed_of_ofParam plain given

theorem wellFormed_of_ofChars (read : Rule.ofChars token = .ok r) : WellFormed r :=
  wellFormed_of_reads (ofChars_eq_ok_iff.1 read)

/-! ## Printing -/

def parts? : RuleParam → Option (List String)
  | .none => none
  | .scalar value => some [value]
  | .pair first second => some [first, second]
  | .list items => some items

def joined (parts : List String) : List Char :=
  [','].intercalate (parts.map String.toList)

theorem text_of_bare (bare : parts? r.param = none) : r.text = r.name.name := by
  unfold Rule.text
  cases param : r.param <;> simp_all [parts?]

theorem text_of_parts (printed : parts? r.param = some parts) :
    r.text.toList = r.name.name.toList ++ '[' :: (joined parts ++ [']']) := by
  unfold Rule.text
  cases param : r.param <;> rw [param] at printed <;> cases printed
  all_goals simp [joined, String.toList_intercalate, List.intercalate]

theorem ofName_of_bare (bare : parts? r.param = none) : Rule.ofName r.name = .ok r := by
  cases r with
  | required => rfl
  | requiredOneOf => rfl
  | pattern p => rfl
  | _ => cases bare

theorem joined_singleton (part : String) : joined [part] = part.toList := by
  simp [joined, List.intercalate]

theorem joined_pair (first second : String) :
    joined [first, second] = first.toList ++ ',' :: second.toList := by
  simp [joined, List.intercalate]

theorem Reference.fieldRef?_joined (reference : Reference ref) :
    Rule.fieldRef? (joined [ref.target, ref.label]) = some ref := by
  rw [fieldRef?_eq_some_iff]
  refine ⟨map_trim_splitOn_intercalate (by simp) ?_, reference.target_ne, reference.label_ne⟩
  exact fun part mem => reference.word mem

theorem ofParam_joined (wellFormed : WellFormed r) (printed : parts? r.param = some parts) :
    Rule.ofParam (joined parts) r.name = .ok r := by
  cases wellFormed <;> cases printed
  case minLength fits =>
    rw [joined_singleton]
    exact orInvalid_eq_ok_iff.2 (by rw [lengthBound?_toString fits]; rfl)
  case maxLength fits =>
    rw [joined_singleton]
    exact orInvalid_eq_ok_iff.2 (by rw [lengthBound?_toString fits]; rfl)
  case exactLength fits =>
    rw [joined_singleton]
    exact orInvalid_eq_ok_iff.2 (by rw [lengthBound?_toString fits]; rfl)
  case rangeLength increases fits =>
    rw [joined_pair]
    exact orInvalid_eq_ok_iff.2 (by rw [lengthRange?_toString increases fits]; rfl)
  case comparison numeral =>
    rw [joined_singleton]
    exact orInvalid_eq_ok_iff.2 (by rw [numeral.threshold?_text]; rfl)
  case inList filled words =>
    have some : parts ≠ [] := by
      rintro rfl
      obtain ⟨item, mem, -⟩ := filled
      cases mem
    have read : Rule.listItems? (joined parts) = .some parts :=
      listItems?_eq_some_iff.2 ⟨map_trim_splitOn_intercalate some words, filled⟩
    exact orInvalid_eq_ok_iff.2 (by rw [read]; rfl)
  case equalTo reference =>
    exact orInvalid_eq_ok_iff.2 (by rw [reference.fieldRef?_joined]; rfl)
  case differentFrom reference =>
    exact orInvalid_eq_ok_iff.2 (by rw [reference.fieldRef?_joined]; rfl)
  case date f =>
    rw [joined_pair]
    exact orInvalid_eq_ok_iff.2 (by rw [ofChars?_date f]; rfl)

/-- The texts that a rule takes over from its token as they are. -/
def words : Rule → List String
  | .inList items => items
  | .equalTo ref => [ref.target, ref.label]
  | .differentFrom ref => [ref.target, ref.label]
  | _ => []

theorem plain_of_mem_date {f : DateFormat} (mem : part ∈ [f.order.name, f.separator.name])
    (inside : c ∈ part.toList) : Rule.isBracket c = false ∧ c ≠ '|' := by
  have all : ([f.order.name, f.separator.name].all fun part =>
      part.toList.all fun c => !Rule.isBracket c && c != '|') = true := by
    obtain ⟨order, separator⟩ := f
    cases order <;> cases separator <;> decide
  have plain := List.all_eq_true.1 (List.all_eq_true.1 all part mem) c inside
  simpa using plain

/-- No part has a bracket, and only those taken over from the token can have a bar. -/
theorem plain_of_mem_part (wellFormed : WellFormed r) (printed : parts? r.param = some parts)
    (mem : part ∈ parts) (inside : c ∈ part.toList) :
    Rule.isBracket c = false ∧ (c = '|' → part ∈ words r) := by
  have digits {k : Nat} (mem : part ∈ [toString k]) : Rule.isBracket c = false ∧ c ≠ '|' := by
    rw [List.mem_singleton.1 mem] at inside
    have plain := plain_of_mem_toString inside
    exact ⟨plain.2.1, plain.2.2.2⟩
  cases wellFormed <;> cases printed
  case minLength fits => exact (digits mem).imp_right fun other bar => absurd bar other
  case maxLength fits => exact (digits mem).imp_right fun other bar => absurd bar other
  case exactLength fits => exact (digits mem).imp_right fun other bar => absurd bar other
  case rangeLength min max increases fits =>
    have known : part ∈ [toString min] ∨ part ∈ [toString max] := by simpa using mem
    exact (known.elim digits digits).imp_right fun other bar => absurd bar other
  case comparison c t numeral =>
    rw [List.mem_singleton.1 mem] at inside
    have plain := numeral.plain inside
    exact ⟨plain.2.1, fun bar => absurd bar plain.2.2.2⟩
  case inList filled words => exact ⟨((words part mem).plain c inside).1, fun _ => mem⟩
  case equalTo reference => exact ⟨((reference.word mem).plain c inside).1, fun _ => mem⟩
  case differentFrom reference => exact ⟨((reference.word mem).plain c inside).1, fun _ => mem⟩
  case date f => exact (plain_of_mem_date mem inside).imp_right fun other bar => absurd bar other

theorem mem_joined (mem : c ∈ joined parts) : c = ',' ∨ ∃ part ∈ parts, c ∈ part.toList := by
  induction parts with
  | nil => cases mem
  | cons first parts ih =>
    cases parts with
    | nil =>
      rw [joined_singleton] at mem
      exact .inr ⟨first, List.mem_singleton_self first, mem⟩
    | cons second parts =>
      have split : joined (first :: second :: parts) =
          first.toList ++ [','] ++ joined (second :: parts) :=
        List.intercalate_cons_cons
      rw [split, List.mem_append, List.mem_append, List.mem_singleton] at mem
      rcases mem with (inside | comma) | later
      · exact .inr ⟨first, List.mem_cons_self, inside⟩
      · exact .inl comma
      · exact (ih later).imp_right fun ⟨part, partMem, inside⟩ =>
          ⟨part, List.mem_cons_of_mem first partMem, inside⟩

theorem not_isBracket_of_mem_joined (wellFormed : WellFormed r)
    (printed : parts? r.param = some parts) (mem : c ∈ joined parts) :
    Rule.isBracket c = false := by
  rcases mem_joined mem with rfl | ⟨part, partMem, inside⟩
  · rfl
  · exact (plain_of_mem_part wellFormed printed partMem inside).1

theorem reads_text (wellFormed : WellFormed r) : Reads r.text.toList r := by
  cases printed : parts? r.param with
  | none =>
    rw [text_of_bare printed]
    exact .bare (open_not_mem_name r.name) (strip_name r.name) (ofName_of_bare printed)
  | some parts =>
    rw [text_of_parts printed]
    exact .parameter (open_not_mem_name r.name) (strip_name r.name)
      (fun c mem => not_isBracket_of_mem_joined wellFormed printed mem)
      (ofParam_joined wellFormed printed)

theorem trimmed_text (r : Rule) : Trimmed r.text.toList := by
  cases printed : parts? r.param with
  | none =>
    rw [text_of_bare printed]
    refine ⟨fun c first => ?_, fun c last => ?_⟩
    · exact (plain_of_mem_name r.name (List.mem_of_head? first)).1
    · exact (plain_of_mem_name r.name (List.mem_of_getLast? last)).1
  | some parts =>
    rw [text_of_parts printed]
    exact trimmed_bracketed r.name (joined parts)

theorem isBlank_text (r : Rule) : isBlank r.text.toList = false := by
  have filled : r.text.toList ≠ [] := by
    cases printed : parts? r.param with
    | none =>
      rw [text_of_bare printed]
      simpa using name_ne_empty r.name
    | some parts => simp [text_of_parts printed]
  rw [Bool.eq_false_iff, ne_eq, ← trim_eq_nil_iff, (trimmed_text r).trim_eq]
  exact filled

theorem ofChars_text (wellFormed : WellFormed r) : Rule.ofChars r.text.toList = .ok r := by
  rw [ofChars_eq_ok_iff, (trimmed_text r).trim_eq]
  exact reads_text wellFormed

theorem mem_of_mem_words (reads : Reads cs r) (mem : part ∈ words r) (inside : c ∈ part.toList) :
    c ∈ cs := by
  cases reads with
  | @bare _ n _ open_ name given => cases n <;> cases given <;> cases mem
  | @parameter head raw n _ first name plain given =>
    have within (split : (splitOn ',' raw).map trim = (words r).map String.toList) :
        c ∈ head ++ '[' :: (raw ++ [']']) := by
      obtain ⟨cut, cutMem, same⟩ := exists_part_of_split split mem
      rw [← same] at inside
      have kept := (mem_of_mem_splitOn cutMem (mem_of_mem_trim inside)).1
      simp [kept]
    cases n with
    | required => cases given
    | requiredOneOf => cases given
    | pattern p => cases given
    | inList =>
      obtain ⟨items, read, rfl⟩ := Option.map_eq_some_iff.1 (orInvalid_eq_ok_iff.1 given)
      exact within (listItems?_eq_some_iff.1 read).1
    | equalTo =>
      obtain ⟨ref, read, rfl⟩ := Option.map_eq_some_iff.1 (orInvalid_eq_ok_iff.1 given)
      exact within (fieldRef?_eq_some_iff.1 read).1
    | differentFrom =>
      obtain ⟨ref, read, rfl⟩ := Option.map_eq_some_iff.1 (orInvalid_eq_ok_iff.1 given)
      exact within (fieldRef?_eq_some_iff.1 read).1
    | _ =>
      obtain ⟨value, -, rfl⟩ := Option.map_eq_some_iff.1 (orInvalid_eq_ok_iff.1 given)
      cases mem

theorem bar_not_mem_text (reads : Reads cs r) (absent : '|' ∉ cs) : '|' ∉ r.text.toList := by
  have named : '|' ∉ r.name.name.toList := fun bar => (plain_of_mem_name r.name bar).2.2 rfl
  cases printed : parts? r.param with
  | none =>
    rw [text_of_bare printed]
    exact named
  | some parts =>
    have given : '|' ∉ joined parts := by
      intro bar
      rcases mem_joined bar with comma | ⟨part, mem, inside⟩
      · cases comma
      · have taken := (plain_of_mem_part (wellFormed_of_reads reads) printed mem inside).2 rfl
        exact absent (mem_of_mem_words reads taken inside)
    rw [text_of_parts printed]
    simp [named, given]

end FormRules.Proofs.Reading
