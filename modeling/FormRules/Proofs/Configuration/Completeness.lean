import FormRules.Proofs.Configuration.Errors

/-!
# Which errors are reported

An error of a token is always reported. An error in a message is reported for a field with nothing
else wrong, so a token that is no rule, or compares with a field that is not there, hides the
message errors of its neighbours. `NothingHidden` says when none of them goes unreported.
-/

namespace FormRules.Proofs.Configuration
open Form

def concernsMessage : ConfigError → Bool
  | .missingMessage _ _ _ => true
  | .unknownPlaceholder _ _ => true
  | _ => false

theorem concernsMessage_of_mem_checkRule {c : Catalog} {field : String} {rule : Rule}
    {e : ConfigError} (mem : e ∈ c.checkRule field rule) : concernsMessage e = true := by
  obtain ⟨key, -, reported⟩ := List.mem_flatMap.1 mem
  cases found : c.template key with
  | none =>
    rw [found, List.mem_singleton] at reported
    subst reported
    rfl
  | some template =>
    simp only [found, Catalog.checkTemplate] at reported
    split at reported
    · cases reported
    · obtain ⟨name, -, rfl⟩ := List.mem_map.1 reported
      rfl

theorem not_concernsMessage_of_mem_display {display : Option DisplayOptions} {e : ConfigError}
    (mem : e ∈ displayErrors display) : concernsMessage e = false := by
  cases display with
  | none => cases mem
  | some o =>
    have required {option value : String} (mem : e ∈ DisplayOptions.requireText option value) :
        concernsMessage e = false := by
      unfold DisplayOptions.requireText at mem
      split at mem
      · rw [List.mem_singleton.1 mem]
        rfl
      · cases mem
    rw [displayErrors, DisplayOptions.check, List.mem_append, List.mem_append] at mem
    rcases mem with (form | button) | way
    · exact required form
    · exact required button
    · split at way
      · rw [List.mem_singleton.1 way]
        rfl
      · cases way

theorem not_concernsMessage_of_mem_ids {seen : List String} {specs : List FieldSpec}
    {e : ConfigError} (mem : e ∈ idErrors seen specs) : concernsMessage e = false := by
  rcases eq_of_mem_idErrors mem with rfl | ⟨id, rfl⟩
  · rfl
  · rfl

theorem not_concernsMessage_of_token {known : String → Prop} {spec : FieldSpec}
    {token : List Char} {e : ConfigError} (error : TokenError known spec token e) :
    concernsMessage e = false := by
  cases error <;> rfl

/-! ## Hidden errors -/

/-- All that is wrong with one token: with the token itself, or with the messages of its rule. -/
def Defect (specs : List FieldSpec) (c : Catalog) (spec : FieldSpec) (token : List Char)
    (e : ConfigError) : Prop :=
  TokenError (Declared specs) spec token e ∨
    ∃ rule, Rule.ofChars token = .ok rule ∧ e ∈ c.checkRule spec.id rule

variable {specs : List FieldSpec} {c : Catalog} {display : Option DisplayOptions}
  {errors : List ConfigError}

theorem token_error_reported {spec : FieldSpec} (mem : spec ∈ specs) {token : List Char}
    (tokenMem : token ∈ Declaration.tokens spec.rules) {e : ConfigError}
    (error : TokenError (Declared specs) spec token e) : e ∈ configErrors specs c display :=
  mem_configErrors.2 (.inr (.inr ⟨spec, mem, .inl ⟨token, tokenMem, error⟩⟩))

theorem message_error_reported_iff {spec : FieldSpec} {e : ConfigError}
    (error : MessageError c spec e) :
    e ∈ configErrors specs c display ↔
      ∃ other ∈ specs, Clean specs other ∧ MessageError c other e := by
  obtain ⟨rule, -, checked⟩ := error
  have message := concernsMessage_of_mem_checkRule checked
  rw [mem_configErrors]
  constructor
  · rintro (shown | ids | ⟨other, mem, ⟨token, -, wrong⟩ | reported⟩)
    · rw [not_concernsMessage_of_mem_display shown] at message
      cases message
    · rw [not_concernsMessage_of_mem_ids ids] at message
      cases message
    · rw [not_concernsMessage_of_token wrong] at message
      cases message
    · exact ⟨other, mem, reported⟩
  · rintro ⟨other, mem, reported⟩
    exact .inr (.inr ⟨other, mem, .inr reported⟩)

/-- Whatever the messages of a field with a wrong token lack is also said of a field with none. -/
def NothingHidden (specs : List FieldSpec) (c : Catalog) : Prop :=
  ∀ spec ∈ specs, ¬Clean specs spec → ∀ e, MessageError c spec e →
    ∃ other ∈ specs, Clean specs other ∧ MessageError c other e

theorem every_defect_reported_iff :
    (∀ spec ∈ specs, ∀ token ∈ Declaration.tokens spec.rules, ∀ e,
      Defect specs c spec token e → e ∈ configErrors specs c display) ↔ NothingHidden specs c := by
  constructor
  · rintro complete spec mem - e ⟨rule, ⟨token, tokenMem, read⟩, checked⟩
    have reported := complete spec mem token tokenMem e (.inr ⟨rule, read, checked⟩)
    exact (message_error_reported_iff ⟨rule, ⟨token, tokenMem, read⟩, checked⟩).1 reported
  · intro shown spec mem token tokenMem e defect
    rcases defect with wrong | ⟨rule, read, checked⟩
    · exact token_error_reported mem tokenMem wrong
    · have error : MessageError c spec e := ⟨rule, ⟨token, tokenMem, read⟩, checked⟩
      rw [message_error_reported_iff error]
      by_cases clean : Clean specs spec
      · exact ⟨spec, mem, clean, error⟩
      · exact shown spec mem clean e error

/-! ## Deleting a token -/

def Deletes (token : List Char) (rules rules' : String) : Prop :=
  ∃ pre post, Declaration.tokens rules = pre ++ token :: post ∧
    Declaration.tokens rules' = pre ++ post

theorem mem_of_deletes {token other : List Char} {rules rules' : String}
    (deletes : Deletes token rules rules') (mem : other ∈ Declaration.tokens rules') :
    other ∈ Declaration.tokens rules := by
  obtain ⟨pre, post, before, after⟩ := deletes
  rw [after, List.mem_append] at mem
  rw [before, List.mem_append]
  exact mem.imp_right (List.mem_cons_of_mem token)

theorem idErrors_congr {seen : List String} {specs specs' : List FieldSpec}
    (ids : specs.map FieldSpec.id = specs'.map FieldSpec.id) :
    idErrors seen specs = idErrors seen specs' := by
  induction specs generalizing seen specs' with
  | nil =>
    rw [List.map_nil, eq_comm, List.map_eq_nil_iff] at ids
    rw [ids]
  | cons spec specs ih =>
    obtain ⟨spec', specs', rfl, same, ids⟩ := List.map_eq_cons_iff.1 ids.symm
    simp only [idErrors, same, ih ids.symm]

theorem declared_congr {specs specs' : List FieldSpec}
    (ids : specs.map FieldSpec.id = specs'.map FieldSpec.id) :
    Declared specs = Declared specs' := by
  funext id
  simp only [Declared, ← List.mem_map, ids]

theorem clean_congr {specs specs' : List FieldSpec} {spec : FieldSpec}
    (ids : specs.map FieldSpec.id = specs'.map FieldSpec.id) :
    Clean specs spec ↔ Clean specs' spec := by
  simp only [Clean, declared_congr ids]

/-- What the messages of `spec` lack, once nothing is wrong with it, is said without it. -/
def SaidElsewhere (specs : List FieldSpec) (c : Catalog) (spec : FieldSpec) : Prop :=
  Clean specs spec → ∀ e, MessageError c spec e →
    ∃ other ∈ specs, Clean specs other ∧ MessageError c other e

theorem deleting_reports_nothing_new_iff {before after : List FieldSpec} {spec : FieldSpec}
    {token : List Char} {rules : String} (deletes : Deletes token spec.rules rules) :
    (∀ e ∈ configErrors (before ++ { spec with rules } :: after) c display,
      e ∈ configErrors (before ++ spec :: after) c display) ↔
      SaidElsewhere (before ++ spec :: after) c { spec with rules } := by
  have ids : (before ++ { spec with rules } :: after).map FieldSpec.id =
      (before ++ spec :: after).map FieldSpec.id := by
    simp
  constructor
  · intro old clean e error
    have reported : e ∈ configErrors (before ++ { spec with rules } :: after) c display :=
      (message_error_reported_iff error).2 ⟨_, by simp, (clean_congr ids).2 clean, error⟩
    exact (message_error_reported_iff error).1 (old e reported)
  · intro said e reported
    rw [mem_configErrors, declared_congr ids, idErrors_congr ids] at reported
    rcases reported with shown | wrong | ⟨other, mem, errors⟩
    · exact mem_configErrors.2 (.inl shown)
    · exact mem_configErrors.2 (.inr (.inl wrong))
    · rw [clean_congr ids] at errors
      rw [List.mem_append, List.mem_cons] at mem
      -- the other fields are as they were
      have kept (mem : other ∈ before ++ spec :: after) :
          e ∈ configErrors (before ++ spec :: after) c display :=
        mem_configErrors.2 (.inr (.inr ⟨other, mem, errors⟩))
      rcases mem with first | rfl | last
      · exact kept (List.mem_append_left _ first)
      · rcases errors with ⟨token', tokenMem, error⟩ | ⟨clean, error⟩
        · apply token_error_reported (by simp) (mem_of_deletes deletes tokenMem)
          cases error with
          | unreadable read => exact .unreadable read
          | unknownTarget read names unknown => exact .unknownTarget read names unknown
        · exact (message_error_reported_iff error).2 (said clean e error)
      · exact kept (List.mem_append_right _ (List.mem_cons_of_mem _ last))

theorem reports_every_defect_iff (rejected : build specs c display = .error errors) :
    (∀ spec ∈ specs, ∀ token ∈ Declaration.tokens spec.rules, ∀ e,
      TokenError (Declared specs) spec token e → e ∈ errors) ∧
    ((∀ spec ∈ specs, ∀ token ∈ Declaration.tokens spec.rules, ∀ e,
      Defect specs c spec token e → e ∈ errors) ↔ NothingHidden specs c) ∧
    ∀ before spec after token rules, specs = before ++ spec :: after →
      Deletes token spec.rules rules →
        ((∀ errors', build (before ++ { spec with rules } :: after) c display = .error errors' →
          ∀ e ∈ errors', e ∈ errors) ↔ SaidElsewhere specs c { spec with rules }) := by
  obtain ⟨rfl, -⟩ := build_eq_error_iff.1 rejected
  refine ⟨?_, every_defect_reported_iff, ?_⟩
  · exact fun spec mem token tokenMem e wrong => token_error_reported mem tokenMem wrong
  · rintro before spec after token rules rfl deletes
    rw [← deleting_reports_nothing_new_iff deletes]
    constructor
    · intro old e mem
      exact old _ (build_eq_error_iff.2 ⟨rfl, List.ne_nil_of_mem mem⟩) e mem
    · intro old errors' rejected' e mem
      obtain ⟨rfl, -⟩ := build_eq_error_iff.1 rejected'
      exact old e mem

def malformed : FieldSpec where
  id := "a"
  rules := "min_length[x]|required"

def wellFormed : FieldSpec where
  id := "b"
  rules := "required"

def oddTemplate : Catalog :=
  Catalog.empty.set (.rule .required) "\x7boops\x7d"

theorem every_defect_of_two_fields :
    ∃ errors, build [malformed, wellFormed] oddTemplate none = .error errors ∧
      ∀ spec ∈ [malformed, wellFormed], ∀ token ∈ Declaration.tokens spec.rules, ∀ e,
        Defect [malformed, wellFormed] oddTemplate spec token e → e ∈ errors := by
  have rejected : build [malformed, wellFormed] oddTemplate none = .error
      [.rule "a" "min_length" (.invalidParam "x"), .unknownPlaceholder (.rule .required) "oops"] :=
    build_eq_error_iff.2 ⟨by decide +kernel, by decide⟩
  have clean : Clean [malformed, wellFormed] wellFormed :=
    specErrors_eq_nil_iff.1 (by decide +kernel)
  have shared : ∀ spec ∈ [malformed, wellFormed], ∀ e ∈ messageErrors oddTemplate spec,
      e ∈ messageErrors oddTemplate wellFormed := by
    decide +kernel
  refine ⟨_, rejected, (reports_every_defect_iff rejected).2.1.2 ?_⟩
  intro spec mem _ e error
  rw [← mem_messageErrors] at error
  exact ⟨wellFormed, by simp, clean, mem_messageErrors.1 (shared spec mem e error)⟩

theorem hidden_message_error :
    ∃ errors missing, build [malformed] .empty none = .error errors ∧
      Defect [malformed] .empty malformed "required".toList missing ∧ missing ∉ errors ∧
      Deletes "min_length[x]".toList malformed.rules "required" ∧
      ∃ errors', build [{ malformed with rules := "required" }] .empty none = .error errors' ∧
        missing ∈ errors' := by
  refine ⟨[.rule "a" "min_length" (.invalidParam "x")],
    .missingMessage "a" .required (.rule .required), ?_, ?_, by decide, ?_,
    [.missingMessage "a" .required (.rule .required)], ?_, List.mem_cons_self⟩
  · exact build_eq_error_iff.2 ⟨by decide +kernel, by decide⟩
  · exact .inr ⟨.required, by rfl, by decide +kernel⟩
  · exact ⟨[], ["required".toList], by rfl, by rfl⟩
  · exact build_eq_error_iff.2 ⟨by decide +kernel, by decide⟩

end FormRules.Proofs.Configuration
