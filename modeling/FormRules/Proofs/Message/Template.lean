import FormRules.Message.Template

/-!
# Filling templates

A template can be filled exactly when each of its placeholders has a value.
-/

namespace FormRules.Proofs.Message
open Template

theorem mem_placeholders {template name : String} :
    name ∈ placeholders template ↔
      ∃ cs, .placeholder cs ∈ pieces template ∧ String.ofList cs = name := by
  rw [placeholders, List.mem_filterMap]
  constructor
  · rintro ⟨piece, mem, named⟩
    cases piece with
    | literal cs => cases named
    | placeholder cs => exact ⟨cs, mem, Option.some.inj named⟩
  · rintro ⟨cs, mem, rfl⟩
    exact ⟨.placeholder cs, mem, rfl⟩

theorem fill_isOk_iff (values : String → Option String) (piece : Piece) :
    (∃ cs, piece.fill values = .ok cs) ↔
      ∀ name, piece = .placeholder name → (values (String.ofList name)).isSome := by
  cases piece with
  | literal cs => simp [Piece.fill]
  | placeholder name => cases found : values (String.ofList name) <;> simp [Piece.fill, found]

theorem mapM_fill_isOk_iff (values : String → Option String) (ps : List Piece) :
    (∃ filled, ps.mapM (Piece.fill values) = .ok filled) ↔
      ∀ piece ∈ ps, ∃ cs, piece.fill values = .ok cs := by
  induction ps with
  | nil => simp [pure, Except.pure]
  | cons piece ps ih =>
    rw [List.forall_mem_cons, ← ih, List.mapM_cons]
    cases head : piece.fill values with
    | error e => simp [bind, Except.bind]
    | ok cs =>
      cases tail : ps.mapM (Piece.fill values) with
      | error e => simp [bind, Except.bind]
      | ok filled => simp [bind, Except.bind, pure, Except.pure]

theorem format_isOk_iff (template : String) (values : String → Option String) :
    (∃ text, format template values = .ok text) ↔
      ∀ name ∈ placeholders template, (values name).isSome := by
  have filled : (∃ text, format template values = .ok text) ↔
      ∃ filled, (pieces template).mapM (Piece.fill values) = .ok filled := by
    unfold format
    cases (pieces template).mapM (Piece.fill values) <;>
      simp [bind, Except.bind, pure, Except.pure]
  rw [filled, mapM_fill_isOk_iff]
  constructor
  · intro all name mem
    obtain ⟨cs, piece, rfl⟩ := mem_placeholders.1 mem
    exact (fill_isOk_iff values _).1 (all _ piece) cs rfl
  · intro all piece mem
    refine (fill_isOk_iff values piece).2 fun name eq => ?_
    subst eq
    exact all _ (mem_placeholders.2 ⟨name, mem, rfl⟩)

end FormRules.Proofs.Message
