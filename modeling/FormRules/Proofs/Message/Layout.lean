import FormRules.Message.Template
import Mathlib.Data.List.Basic

/-!
# Layout of templates

A template is cut in one way into literals and placeholders, and the scanner finds it.
-/

namespace FormRules.Proofs.Message
open Template

variable {template : String} {value : String → String} {c : Char}
  {cs literal after opened : List Char}

inductive Layout where
  | last (literal : List Char)
  | cut (literal name : List Char) (rest : Layout)
deriving DecidableEq

namespace Layout

def text : Layout → List Char
  | last literal => literal
  | cut literal name rest => literal ++ '{' :: (name ++ '}' :: rest.text)

def names : Layout → List String
  | last _ => []
  | cut _ name rest => String.ofList name :: rest.names

def filled (value : String → String) : Layout → List Char
  | last literal => literal
  | cut literal name rest => literal ++ (value (String.ofList name)).toList ++ rest.filled value

/-- Each opening brace of the literal is closed at once, or nowhere in the text behind it. -/
def Literal (literal after : List Char) : Prop :=
  ∀ before rest, literal = before ++ '{' :: rest →
    (rest ++ after).head? = some '}' ∨ '}' ∉ rest ++ after

def WellFormed : Layout → Prop
  | last literal => Literal literal []
  | cut literal name rest => Literal literal ('{' :: (name ++ '}' :: rest.text)) ∧
      (name ≠ [] ∧ '}' ∉ name) ∧ rest.WellFormed

theorem Literal.nil : Literal [] after := by
  intro before rest split
  simp at split

theorem literal_cons : Literal (c :: cs) after ↔
    (c = '{' → (cs ++ after).head? = some '}' ∨ '}' ∉ cs ++ after) ∧ Literal cs after := by
  constructor
  · intro plain
    refine ⟨fun same => plain [] cs (by rw [same]; rfl), fun before rest split => ?_⟩
    exact plain (c :: before) rest (by rw [split]; rfl)
  · rintro ⟨first, plain⟩ before rest split
    cases before with
    | nil =>
      obtain ⟨rfl, rfl⟩ := List.cons.inj split
      exact first rfl
    | cons d before => exact plain before rest (List.cons.inj split).2

theorem literal_append : Literal (literal ++ cs) after ↔
    Literal literal (cs ++ after) ∧ Literal cs after := by
  induction literal with
  | nil => simp [Literal.nil]
  | cons c literal ih =>
    rw [List.cons_append, literal_cons, literal_cons, ih, List.append_assoc, and_assoc]

theorem literal_of_unclosed (unclosed : '}' ∉ literal ++ after) : Literal literal after := by
  rintro before rest rfl
  right
  intro mem
  apply unclosed
  rw [List.append_assoc]
  exact List.mem_append_right _ (List.mem_cons_of_mem _ mem)

/-! ## Literals in front -/

def prepend (cs : List Char) : Layout → Layout
  | last literal => last (cs ++ literal)
  | cut literal name rest => cut (cs ++ literal) name rest

variable {d : Layout}

theorem text_prepend : (d.prepend cs).text = cs ++ d.text := by
  cases d <;> simp [prepend, text]

theorem names_prepend : (d.prepend cs).names = d.names := by
  cases d <;> rfl

theorem filled_prepend : (d.prepend cs).filled value = cs ++ d.filled value := by
  cases d <;> simp [prepend, filled]

theorem prepend_nil : d.prepend [] = d := by
  cases d <;> rfl

theorem prepend_prepend : (d.prepend cs).prepend literal = d.prepend (literal ++ cs) := by
  cases d <;> simp [prepend]

theorem wellFormed_prepend :
    (d.prepend cs).WellFormed ↔ Literal cs d.text ∧ d.WellFormed := by
  cases d with
  | last literal => simp only [prepend, WellFormed, text, literal_append, List.append_nil]
  | cut literal name rest => simp only [prepend, WellFormed, text, literal_append, and_assoc]

/-! ## The layout of the pieces -/

def ofPieces : List Piece → Layout
  | [] => last []
  | .literal cs :: ps => (ofPieces ps).prepend cs
  | .placeholder name :: ps => cut [] name (ofPieces ps)

theorem placeholders_eq : placeholders template = (ofPieces (pieces template)).names := by
  rw [placeholders]
  generalize pieces template = ps
  induction ps with
  | nil => rfl
  | cons piece ps ih =>
    cases piece with
    | literal cs =>
      rw [ofPieces, names_prepend]
      exact ih
    | placeholder name => exact congrArg (String.ofList name :: ·) ih

def pending : Option (List Char) → List Char
  | none => []
  | some opened => '{' :: opened.reverse

/-- While a placeholder is open no closing brace has been read, so a brace that stays open or is
closed at once is literal text. -/
theorem ofPieces_scan (state : Option (List Char)) (open_ : ∀ opened ∈ state, '}' ∉ opened) :
    (ofPieces (scan state cs)).text = pending state ++ cs ∧
      (ofPieces (scan state cs)).WellFormed := by
  induction cs generalizing state with
  | nil =>
    cases state with
    | none => exact ⟨rfl, Literal.nil⟩
    | some opened =>
      have unclosed : '}' ∉ '{' :: opened.reverse := by simpa using open_ opened rfl
      refine ⟨by simp [scan, ofPieces, prepend, text, pending], ?_⟩
      have literal : Literal ('{' :: opened.reverse) [] :=
        literal_of_unclosed (by rwa [List.append_nil])
      simpa [scan, ofPieces, prepend, WellFormed] using literal
  | cons c cs ih =>
    cases state with
    | none =>
      by_cases opens : c = '{'
      · obtain ⟨read, wellFormed⟩ := ih (some []) (by simp)
        rw [scan, if_pos opens]
        exact ⟨by rw [read, opens]; rfl, wellFormed⟩
      · obtain ⟨read, wellFormed⟩ := ih none (by simp)
        rw [scan, if_neg opens, ofPieces, text_prepend, wellFormed_prepend, read, literal_cons]
        exact ⟨rfl, ⟨fun same => absurd same opens, Literal.nil⟩, wellFormed⟩
    | some opened =>
      by_cases closes : c = '}'
      · obtain ⟨read, wellFormed⟩ := ih none (by simp)
        rw [scan, if_neg (not_not_intro closes), closes]
        cases opened with
        | nil =>
          rw [List.isEmpty_nil, if_pos rfl, ofPieces, text_prepend, wellFormed_prepend, read,
            literal_cons, literal_cons]
          exact ⟨rfl, ⟨fun _ => .inl rfl, nofun, Literal.nil⟩, wellFormed⟩
        | cons last opened =>
          rw [List.isEmpty_cons, if_neg Bool.false_ne_true, ofPieces]
          refine ⟨by simp [text, read, pending], Literal.nil, ⟨by simp, ?_⟩, wellFormed⟩
          rw [List.mem_reverse]
          exact open_ _ rfl
      · obtain ⟨read, wellFormed⟩ := ih (some (c :: opened)) (by
          have := open_ opened rfl
          simp [Ne.symm closes, this])
        rw [scan, if_pos closes]
        exact ⟨by rw [read]; simp [pending], wellFormed⟩

/-! ## One layout for each text -/

theorem scan_unclosed (unclosed : '}' ∉ cs) :
    scan (some opened) cs = [.literal ('{' :: (opened.reverse ++ cs))] := by
  induction cs generalizing opened with
  | nil => simp [scan]
  | cons c cs ih =>
    rw [List.mem_cons, not_or] at unclosed
    rw [scan, if_pos (Ne.symm unclosed.1), ih unclosed.2]
    simp

theorem scan_closed (filled : opened.reverse ++ cs ≠ []) (unclosed : '}' ∉ cs) :
    scan (some opened) (cs ++ '}' :: after) =
      .placeholder (opened.reverse ++ cs) :: scan none after := by
  induction cs generalizing opened with
  | nil =>
    rw [List.append_nil, ne_eq, List.reverse_eq_nil_iff] at filled
    simp [scan, filled]
  | cons c cs ih =>
    rw [List.mem_cons, not_or] at unclosed
    rw [List.cons_append, scan, if_pos (Ne.symm unclosed.1), ih (by simp) unclosed.2]
    simp

inductive Follows : List Char → Prop where
  | nothing : Follows []
  | placeholder (name rest : List Char) : Follows ('{' :: (name ++ '}' :: rest))

theorem ofPieces_literal (follows : Follows after) : ∀ literal, Literal literal after →
    ofPieces (scan none (literal ++ after)) = (ofPieces (scan none after)).prepend literal
  | [], _ => by rw [prepend_nil, List.nil_append]
  | c :: literal, plain => by
    obtain ⟨first, plain⟩ := literal_cons.1 plain
    by_cases opens : c = '{'
    · rw [List.cons_append, scan, if_pos opens]
      rcases first opens with closed | unclosed
      · match literal with
        | [] => cases follows <;> cases closed
        | d :: literal =>
          obtain rfl : d = '}' := Option.some.inj closed
          have rest := ofPieces_literal follows literal (literal_cons.1 plain).2
          rw [List.cons_append, scan, if_neg (not_not_intro rfl), List.isEmpty_nil, if_pos rfl,
            ofPieces, rest, prepend_prepend, opens]
          rfl
      · rw [scan_unclosed unclosed, opens]
        cases follows with
        | nothing => simp [ofPieces, scan, prepend]
        | placeholder name rest => simp at unclosed
    · have rest := ofPieces_literal follows literal plain
      rw [List.cons_append, scan, if_neg opens, ofPieces, rest, prepend_prepend]
      rfl

theorem ofPieces_scan_text (wellFormed : d.WellFormed) : ofPieces (scan none d.text) = d := by
  induction d with
  | last literal =>
    have read := ofPieces_literal .nothing literal wellFormed
    simpa [text, scan, ofPieces, prepend] using read
  | cut literal name rest ih =>
    obtain ⟨plain, ⟨filled, unclosed⟩, wellFormed⟩ := wellFormed
    have opened : scan none ('{' :: (name ++ '}' :: rest.text)) =
        .placeholder name :: scan none rest.text := by
      rw [scan, if_pos rfl, scan_closed (by simpa using filled) unclosed]
      rfl
    rw [text, ofPieces_literal (.placeholder name rest.text) literal plain, opened, ofPieces,
      ih wellFormed]
    simp [prepend]

end Layout

structure IsLayout (d : Layout) (template : String) : Prop where
  text : d.text = template.toList
  wellFormed : d.WellFormed

def layout (template : String) : Layout :=
  .ofPieces (pieces template)

theorem isLayout_iff {d : Layout} : IsLayout d template ↔ d = layout template := by
  constructor
  · rintro ⟨text, wellFormed⟩
    rw [layout, pieces, ← text, Layout.ofPieces_scan_text wellFormed]
  · rintro rfl
    obtain ⟨read, wellFormed⟩ := @Layout.ofPieces_scan template.toList none (by simp)
    exact ⟨read, wellFormed⟩

end FormRules.Proofs.Message
