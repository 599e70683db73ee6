import FormRules.Proofs.RoundTrip.Reordered
import FormRules.Wire.Display
import FormRules.Wire.Report
import FormRules.Wire.Snapshot

/-!
# Round trips

What is written is read back, as a tree and as JSON text, whatever order the entries of records come
in.
-/

namespace FormRules.Proofs.RoundTrip
open Wire List

def RoundTrips {α : Type} (write : α → Data) (read : Data → Option α) (x : α) : Prop :=
  ∀ d, Reordered (write x) d → read d = some x ∧
    ∀ double, (Data.ofJson? (json double d)).bind read = some x

variable {α : Type} {write : α → Data} {read : Data → Option α} {x : α} {l : Leniency} {d : Data}

theorem roundTrips_of_reads (plain : Plain 127 (write x)) (reads : Reads read (write x) x) :
    RoundTrips write read x := by
  intro d same
  refine ⟨reads d same, fun double => ?_⟩
  rw [ofJson?_json (plain.reordered same), Option.bind_some]
  exact reads d same

theorem reads_kind (k : FieldKind) : Reads (FieldKind.ofData? l) k.toData k := by
  rintro _ ⟨⟩
  cases k <;> rfl

theorem reads_ruleName (r : RuleName) : Reads (RuleName.ofData? l) r.toData r := by
  rintro _ ⟨⟩
  exact RuleName.ofName?_name r

theorem reads_pattern (p : Pattern) : Reads (Pattern.ofData? l) p.toData p := by
  rintro _ ⟨⟩
  exact Pattern.ofName?_name p

/-! ## Fields and their inputs -/

theorem reads_fieldSpec (s : FieldSpec) : Reads (FieldSpec.ofData? l) s.toData s := by
  intro d same
  obtain ⟨_, given, values⟩ :=
    slots?_of_reordered [["id"], ["label"], ["kind"], ["group"], ["rules"]] same rfl
  match values with
  | .cons id (.cons label (.cons kind (.cons group (.cons rules .nil)))) =>
    simp only [FieldSpec.ofData?, given, Option.bind_eq_bind, Option.bind_some,
      (reads_text _).mandatory id, (reads_optionalText _).withDefault label,
      (reads_kind _).withDefault kind, (reads_optionalText _).withDefault group,
      (reads_text _).withDefault rules]

theorem reads_fieldState (s : FieldState) : Reads FieldState.ofData? s.toData s := by
  intro d same
  obtain ⟨_, given, values⟩ := slots?_of_reordered [["value"], ["checked"]] same rfl
  match values with
  | .cons value (.cons checked .nil) =>
    simp only [FieldState.ofData?, given, Option.bind_eq_bind, Option.bind_some,
      (reads_text _).withDefault value, (reads_bool _).withDefault checked]

/-- A state is no text, so it is not taken for a value. -/
theorem reads_fieldInput (i : FieldInput) : Reads FieldInput.ofData? i.toData i := by
  intro d same
  cases i with
  | value s =>
    cases same
    rfl
  | state s =>
    obtain ⟨between, es', rfl, -⟩ := Reordered.record_iff.1 same
    rw [FieldInput.ofData?, reads_fieldState s _ same]
    · rfl
    · rintro _ ⟨⟩

theorem reads_groupMember (m : GroupMember) : Reads GroupMember.ofData? m.toData m := by
  intro d same
  obtain ⟨_, given, values⟩ :=
    slots?_of_reordered [["id"], ["label"], ["kind"], ["checked"]] same rfl
  match values with
  | .cons id (.cons label (.cons kind (.cons checked .nil))) =>
    simp only [GroupMember.ofData?, given, Option.bind_eq_bind, Option.bind_some,
      (reads_text _).mandatory id, (reads_text _).mandatory label, (reads_kind _).mandatory kind,
      (reads_bool _).mandatory checked]

theorem reads_membership (m : Membership) : Reads Membership.ofData? m.toData m := by
  intro d same
  obtain ⟨_, given, values⟩ :=
    slots?_of_reordered [["group"], ["id"], ["label"], ["kind"]] same rfl
  match values with
  | .cons group (.cons id (.cons label (.cons kind .nil))) =>
    simp only [Membership.ofData?, given, Option.bind_eq_bind, Option.bind_some,
      (reads_text _).mandatory group, (reads_text _).mandatory id,
      (reads_text _).mandatory label, (reads_kind _).mandatory kind]

theorem reads_displayOptions (o : DisplayOptions) :
    Reads DisplayOptions.ofData? o.toData o := by
  intro d same
  obtain ⟨_, given, values⟩ :=
    slots?_of_reordered DisplayOptions.fieldNames same rfl
  obtain _ | ⟨formId, _ | ⟨submit, _ | ⟨container, _ | ⟨realTime, _ | ⟨onBlur, _ | ⟨highlights,
    _ | ⟨prevent, _ | ⟨test, ⟨⟩⟩⟩⟩⟩⟩⟩⟩⟩ := values
  simp only [DisplayOptions.ofData?, given, Option.bind_eq_bind, Option.bind_some,
    (reads_text _).withDefault formId, (reads_text _).withDefault submit,
    (reads_optionalText _).withDefault container, (reads_bool _).withDefault realTime,
    (reads_bool _).withDefault onBlur, (reads_bool _).withDefault highlights,
    (reads_bool _).withDefault prevent, (reads_bool _).withDefault test]

/-! ## Form values -/

theorem reads_entries {entries : List (String × α)}
    (reads : ∀ x, Reads read (write x) x)
    (same : Reordered (.record (entries.map fun e => (e.1, write e.2))) d) :
    ∃ entries', entries? read d = some entries' ∧ entries.Perm entries' := by
  obtain ⟨between, es', rfl, values, perm⟩ := Reordered.record_iff.1 same
  have each : Forall₂ (fun e' e => (read e'.2).map (e'.1, ·) = some e) between entries := by
    refine Forall₂.flip ((forall₂_map_left_iff.1 values).imp fun e e' same => ?_)
    obtain ⟨key, x⟩ := e
    cases same with
    | intro key value => simp [flip, reads x _ value]
  obtain ⟨entries', each, perm⟩ := perm_comp_forall₂ perm.symm each
  exact ⟨entries', mapM_eq_some_iff.2 each, perm.symm⟩

theorem foldl_insert_eq_insertMany (m : Std.ExtTreeMap String FieldState compare)
    (states : List (String × FieldState)) :
    states.foldl (fun m (id, s) => m.insert id s) m = m.insertMany states := by
  induction states generalizing m with
  | nil => rw [foldl_nil, Std.ExtTreeMap.insertMany_nil]
  | cons e states ih => rw [foldl_cons, ih, Std.ExtTreeMap.insertMany_cons]

theorem insertMany_eq_of_perm {m : Std.ExtTreeMap String FieldState compare}
    {states : List (String × FieldState)} (perm : m.toList.Perm states) :
    Std.ExtTreeMap.insertMany ∅ states = m := by
  have distinct := m.distinct_keys_toList.perm perm fun other same =>
    other (Std.OrientedCmp.eq_symm same)
  apply Std.ExtTreeMap.ext_getElem?
  intro id
  cases state : m[id]? with
  | some s =>
    have mem := perm.mem_iff.1 (Std.ExtTreeMap.mem_toList_iff_getElem?_eq_some.2 state)
    exact Std.ExtTreeMap.getElem?_insertMany_list_of_mem Std.ReflCmp.compare_self distinct mem
  | none =>
    have absent : (states.map Prod.fst).contains id = false := by
      rw [Bool.eq_false_iff, ne_eq, contains_iff_mem]
      intro mem
      obtain ⟨⟨id, s⟩, given, rfl⟩ := mem_map.1 mem
      have known := Std.ExtTreeMap.mem_toList_iff_getElem?_eq_some.1 (perm.mem_iff.2 given)
      rw [state] at known
      cases known
    rw [Std.ExtTreeMap.getElem?_insertMany_list_of_contains_eq_false absent]
    exact Std.ExtTreeMap.getElem?_empty

theorem reads_formValues (v : FormValues) : Reads FormValues.ofData? v.toData v := by
  intro d same
  obtain ⟨_, given, values⟩ := slots?_of_reordered [["states"], ["groups"]] same rfl
  match values with
  | .cons states (.cons groups .nil) =>
    have readStates : Reads FormValues.statesOfData? v.statesData v.states := by
      intro d same
      obtain ⟨states, read, perm⟩ := reads_entries reads_fieldState same
      rw [FormValues.statesOfData?, read, Option.bind_eq_bind, Option.bind_some,
        foldl_insert_eq_insertMany, insertMany_eq_of_perm perm]
    have readGroups := reads_list fun m (_ : m ∈ v.members) => reads_membership m
    simp only [FormValues.ofData?, given, Option.bind_eq_bind, Option.bind_some,
      readStates.withDefault states, readGroups.withDefault groups]

/-! ## Rules -/

theorem reads_ruleParam (p : RuleParam) : Reads RuleParam.ofData? p.toData p := by
  intro d same
  cases p with
  | none =>
    obtain ⟨_, l, tagged, ⟨⟩⟩ := tagged?_of_reordered "shape" "value" same rfl rfl
    simp only [RuleParam.ofData?, tagged, Option.bind_eq_bind, Option.bind_some]
    rfl
  | scalar value =>
    obtain ⟨_, l, tagged, content⟩ := tagged?_of_reordered "shape" "value" same rfl rfl
    simp only [RuleParam.ofData?, tagged, Option.bind_eq_bind, Option.bind_some,
      (reads_text _).mandatory content]
    rfl
  | pair first second =>
    obtain ⟨_, l, tagged, content⟩ := tagged?_of_reordered "shape" "value" same rfl rfl
    simp only [RuleParam.ofData?, tagged, Option.bind_eq_bind, Option.bind_some,
      (reads_pair _ _).mandatory content]
    rfl
  | list items =>
    obtain ⟨_, l, tagged, content⟩ := tagged?_of_reordered "shape" "value" same rfl rfl
    simp only [RuleParam.ofData?, tagged, Option.bind_eq_bind, Option.bind_some,
      (reads_textList _).mandatory content]
    rfl

theorem reads_dateFormat (f : DateFormat) : Reads (DateFormat.ofData? l) f.toData f := by
  intro d same
  obtain ⟨_, given, values⟩ := slots?_of_reordered [["order"], ["separator"]] same rfl
  match values with
  | .cons first (.cons second .nil) =>
    simp only [DateFormat.ofData?, given, Option.bind_eq_bind, Option.bind_some,
      (reads_name _).mandatory first, (reads_name _).mandatory second]
    -- The hypotheses mention the format, whose cases are to be told apart.
    clear same given values first second
    obtain ⟨order, separator⟩ := f
    cases order <;> cases separator <;> rfl

theorem reads_fieldRef (r : FieldRef) : Reads FieldRef.ofData? r.toData r := by
  intro d same
  obtain ⟨_, given, values⟩ := slots?_of_reordered [["target"], ["label"]] same rfl
  match values with
  | .cons target (.cons label .nil) =>
    simp only [FieldRef.ofData?, given, Option.bind_eq_bind, Option.bind_some,
      (reads_text _).mandatory target, (reads_text _).mandatory label]

theorem reads_lengthRange (min max : Nat) :
    Reads Rule.lengthRangeOfData? (.record [("min", .number (.natural min)),
      ("max", .number (.natural max))]) (.rangeLength min max) := by
  intro d same
  obtain ⟨_, es, rfl, -⟩ := Reordered.record_iff.1 same
  obtain ⟨_, low, first⟩ := slot?_of_reordered ["min"] same rfl
  obtain ⟨_, high, second⟩ := slot?_of_reordered ["max"] same rfl
  simp only [Rule.lengthRangeOfData?, low, high, Option.bind_eq_bind, Option.bind_some,
    (reads_natural _).mandatory first, (reads_natural _).mandatory second]

def Whole : Rule → Prop
  | .minLength n => n < Data.Number.unsignedLimit
  | .maxLength n => n < Data.Number.unsignedLimit
  | .exactLength n => n < Data.Number.unsignedLimit
  | .rangeLength min max => min < Data.Number.unsignedLimit ∧ max < Data.Number.unsignedLimit
  | .comparison _ _ => False
  | _ => True

theorem ofContent?_of_related {r : Rule} {content : Option Data} (whole : Whole r)
    (related : Option.Rel Reordered r.content? content) :
    Rule.ofContent? l r.tag content = some r := by
  cases r with
  | comparison c t => cases whole
  | required =>
    cases related
    rfl
  | requiredOneOf =>
    cases related
    rfl
  | rangeLength min max => exact (reads_lengthRange min max).mandatory related
  | minLength n => exact Option.map_eq_some_iff.2 ⟨n, (reads_natural n).mandatory related, rfl⟩
  | maxLength n => exact Option.map_eq_some_iff.2 ⟨n, (reads_natural n).mandatory related, rfl⟩
  | exactLength n => exact Option.map_eq_some_iff.2 ⟨n, (reads_natural n).mandatory related, rfl⟩
  | inList items =>
    exact Option.map_eq_some_iff.2 ⟨items, (reads_textList items).mandatory related, rfl⟩
  | equalTo ref => exact Option.map_eq_some_iff.2 ⟨ref, (reads_fieldRef ref).mandatory related, rfl⟩
  | differentFrom ref =>
    exact Option.map_eq_some_iff.2 ⟨ref, (reads_fieldRef ref).mandatory related, rfl⟩
  | date f => exact Option.map_eq_some_iff.2 ⟨f, (reads_dateFormat f).mandatory related, rfl⟩
  | pattern p => exact Option.map_eq_some_iff.2 ⟨p, (reads_pattern p).mandatory related, rfl⟩

theorem entries_of_rule (r : Rule) : ∃ es, r.toData = .record es ∧
    slot? ["rule"] es = some (some (.text r.tag)) ∧ slot? ["param"] es = some r.content? := by
  refine ⟨_, rfl, ?_, ?_⟩
  · cases r.content? <;> rfl
  · cases r.content? <;> rfl

theorem reads_rule {r : Rule} (whole : Whole r) : Reads Rule.ofData? r.toData r := by
  intro d same
  obtain ⟨es, written, tag, param⟩ := entries_of_rule r
  rw [written] at same
  obtain ⟨content, l, tagged, related⟩ := tagged?_of_reordered "rule" "param" same tag param
  simp only [Rule.ofData?, tagged, Option.bind_eq_bind, Option.bind_some]
  exact ofContent?_of_related whole related

/-! ## Verdicts and reports -/

theorem reads_errorEntries {e : ErrorResult} {es : List (String × Data)}
    (given : slots? [["fieldId"], ["rule"], ["message"]] (.record es) =
      some [some (.text e.fieldId), some e.rule.toData, some (.text e.message)]) :
    Reads (ErrorResult.ofData? l) (.record es) e := by
  intro d same
  obtain ⟨_, given, values⟩ := slots?_of_reordered _ same given
  match values with
  | .cons fieldId (.cons rule (.cons message .nil)) =>
    simp only [ErrorResult.ofData?, given, Option.bind_eq_bind, Option.bind_some,
      (reads_text _).mandatory fieldId, (reads_ruleName _).mandatory rule,
      (reads_text _).mandatory message]

theorem reads_errorResult (e : ErrorResult) : Reads (ErrorResult.ofData? l) e.toData e :=
  reads_errorEntries rfl

theorem reads_successEntries {id : String} {es : List (String × Data)}
    (given : slots? [["fieldId"]] (.record es) = some [some (.text id)]) :
    Reads Verdict.successOfData? (.record es) id := by
  intro d same
  obtain ⟨_, given, values⟩ := slots?_of_reordered _ same given
  match values with
  | .cons fieldId .nil =>
    simp only [Verdict.successOfData?, given, Option.bind_eq_bind, Option.bind_some,
      (reads_text _).mandatory fieldId]

theorem reads_success (id : String) : Reads Verdict.successOfData? (Verdict.successData id) id :=
  reads_successEntries rfl

theorem ofData?_of_status {status : String} {es : List (String × Data)}
    (same : Reordered (.record es) d)
    (given : slot? ["status"] es = some (some (.text status))) :
    Verdict.ofData? d = Verdict.ofStatus? status d := by
  obtain ⟨_, _, rfl, -⟩ := Reordered.record_iff.1 same
  obtain ⟨_, given, related⟩ := slot?_of_reordered ["status"] same given
  simp only [Verdict.ofData?, given, Option.bind_eq_bind, Option.bind_some,
    (reads_text _).mandatory related]

/-- The status stands among the fields, which are read as if it were not there. -/
theorem reads_verdict (v : Verdict) : Reads Verdict.ofData? v.toData v := by
  intro d same
  cases v with
  | success id =>
    rw [ofData?_of_status same rfl]
    exact Option.map_eq_some_iff.2 ⟨id, reads_successEntries rfl d same, rfl⟩
  | error e =>
    rw [ofData?_of_status same rfl]
    exact Option.map_eq_some_iff.2 ⟨e, reads_errorEntries rfl d same, rfl⟩

theorem reads_report (r : Report) : Reads Report.ofData? r.toData r := by
  intro d same
  obtain ⟨_, given, values⟩ := slots?_of_reordered [["errors"], ["successes"]] same rfl
  have readErrors := reads_list fun e (_ : e ∈ r.errors) => reads_errorResult (l := .strict) e
  have readSuccesses := reads_list fun id (_ : id ∈ r.successes) => reads_success id
  match values with
  | .cons errors (.cons successes .nil) =>
    simp only [Report.ofData?, given, Option.bind_eq_bind, Option.bind_some,
      readErrors.mandatory errors, readSuccesses.mandatory successes]

/-! ## Trees that JSON holds -/

variable {depth : Nat}

@[simp] theorem plain_optionalText (t : Option String) : Plain depth (Data.optionalText t) := by
  cases t with
  | none => exact .null
  | some t => exact .text t

@[simp] theorem plain_textList (items : List String) :
    Plain (depth + 1) (Data.textList items) := by
  simp [Data.textList]

theorem plain_fieldSpec (s : FieldSpec) : Plain (depth + 1) s.toData := by
  simp [FieldSpec.toData, FieldKind.toData]

theorem plain_fieldState (s : FieldState) : Plain (depth + 1) s.toData := by
  simp [FieldState.toData]

theorem plain_fieldInput (i : FieldInput) : Plain (depth + 1) i.toData := by
  cases i with
  | value s => exact .text s
  | state s => exact plain_fieldState s

theorem plain_groupMember (m : GroupMember) : Plain (depth + 1) m.toData := by
  simp [GroupMember.toData, FieldKind.toData]

theorem plain_formValues (v : FormValues) : Plain (depth + 3) v.toData := by
  have states : Plain (depth + 2) v.statesData := by
    refine .record fun e mem => ?_
    obtain ⟨⟨id, s⟩, -, rfl⟩ := mem_map.1 mem
    exact plain_fieldState s
  simp [FormValues.toData, states, Membership.toData, FieldKind.toData]

theorem plain_displayOptions (o : DisplayOptions) : Plain (depth + 1) o.toData := by
  simp [DisplayOptions.toData]

theorem plain_dateFormat (f : DateFormat) : Plain (depth + 1) f.toData := by
  simp [DateFormat.toData]

theorem plain_ruleParam (p : RuleParam) : Plain (depth + 2) p.toData := by
  cases p <;> simp [RuleParam.toData]

theorem plain_rule {r : Rule} (whole : Whole r) : Plain (depth + 2) r.toData := by
  cases r <;>
    simp_all [Whole, Rule.toData, Rule.content?, plain_dateFormat, FieldRef.toData, Pattern.toData]

theorem plain_errorResult (e : ErrorResult) : Plain (depth + 1) e.toData := by
  simp [ErrorResult.toData, ErrorResult.entries, RuleName.toData]

theorem plain_verdict (v : Verdict) : Plain (depth + 1) v.toData := by
  cases v <;> simp [Verdict.toData, ErrorResult.entries, RuleName.toData]

theorem plain_report (r : Report) : Plain (depth + 3) r.toData := by
  simp [Report.toData, plain_errorResult, Verdict.successData]

theorem wire_formats_round_trip :
    (∀ l x, RoundTrips FieldSpec.toData (FieldSpec.ofData? l) x) ∧
    (∀ x, RoundTrips FieldState.toData FieldState.ofData? x) ∧
    (∀ x, RoundTrips FieldInput.toData FieldInput.ofData? x) ∧
    (∀ x, RoundTrips GroupMember.toData GroupMember.ofData? x) ∧
    (∀ x, RoundTrips FormValues.toData FormValues.ofData? x) ∧
    (∀ x, RoundTrips DisplayOptions.toData DisplayOptions.ofData? x) ∧
    (∀ l x, RoundTrips DateFormat.toData (DateFormat.ofData? l) x) ∧
    (∀ x, RoundTrips RuleParam.toData RuleParam.ofData? x) ∧
    (∀ l x, RoundTrips ErrorResult.toData (ErrorResult.ofData? l) x) ∧
    (∀ x, RoundTrips Verdict.toData Verdict.ofData? x) ∧
    (∀ x, RoundTrips Report.toData Report.ofData? x) ∧
    (∀ r, Whole r → RoundTrips Rule.toData Rule.ofData? r) :=
  ⟨fun _ x => roundTrips_of_reads (plain_fieldSpec x) (reads_fieldSpec x),
    fun x => roundTrips_of_reads (plain_fieldState x) (reads_fieldState x),
    fun x => roundTrips_of_reads (plain_fieldInput x) (reads_fieldInput x),
    fun x => roundTrips_of_reads (plain_groupMember x) (reads_groupMember x),
    fun x => roundTrips_of_reads (plain_formValues x) (reads_formValues x),
    fun x => roundTrips_of_reads (plain_displayOptions x) (reads_displayOptions x),
    fun _ x => roundTrips_of_reads (plain_dateFormat x) (reads_dateFormat x),
    fun x => roundTrips_of_reads (plain_ruleParam x) (reads_ruleParam x),
    fun _ x => roundTrips_of_reads (plain_errorResult x) (reads_errorResult x),
    fun x => roundTrips_of_reads (plain_verdict x) (reads_verdict x),
    fun x => roundTrips_of_reads (plain_report x) (reads_report x),
    fun _ whole => roundTrips_of_reads (plain_rule whole) (reads_rule whole)⟩

theorem range_length_of_json :
    let text := "\x7b\"rule\":\"range_length\",\"param\":\x7b\"min\":2,\"max\":5\x7d\x7d"
    Whole (.rangeLength 2 5) ∧ json (fun _ => []) (Rule.toData (.rangeLength 2 5)) = text ∧
      (Data.ofJson? text).bind Rule.ofData? = some (.rangeLength 2 5) := by
  have whole : Whole (.rangeLength 2 5) := ⟨by decide, by decide⟩
  have written : json (fun _ => []) (Rule.toData (.rangeLength 2 5)) =
      "\x7b\"rule\":\"range_length\",\"param\":\x7b\"min\":2,\"max\":5\x7d\x7d" := by
    decide +kernel
  obtain ⟨-, -, -, -, -, -, -, -, -, -, -, rules⟩ := wire_formats_round_trip
  have read := (rules _ whole _ (.refl _)).2 fun _ => []
  rw [written] at read
  exact ⟨whole, written, read⟩

end FormRules.Proofs.RoundTrip
