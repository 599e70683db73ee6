import FormRules.Proofs.Number.Denotation
import FormRules.Proofs.Reading.WellFormed

/-!
# The rules that tokens stand for

They are the well-formed ones, and each of them stands in its own text.
-/

namespace FormRules.Proofs.Reading
open Number

theorem wellFormed_of_ofText {token : String} {r : Rule} (read : Rule.ofText token = .ok r) :
    WellFormed r :=
  wellFormed_of_ofChars read

theorem ofText_text {r : Rule} (wellFormed : WellFormed r) : Rule.ofText r.text = .ok r :=
  ofChars_text wellFormed

/-- Reading gives the well-formed rules, and of these each is read from its text. What is well
formed about a threshold can be said without reading its text. -/
theorem image_of_ofText :
    (∀ r, (∃ token, Rule.ofText token = .ok r) ↔ WellFormed r) ∧
      (∀ r, Rule.ofText r.text = .ok r ↔ WellFormed r) ∧
      ∀ t, Numeral t ↔
        ∃ q, Denotes t.text.toList t.value.negative q ∧ Nearest q t.value.pattern := by
  refine ⟨fun r => ⟨?_, fun wellFormed => ⟨r.text, ofText_text wellFormed⟩⟩,
    fun r => ⟨wellFormed_of_ofText, ofText_text⟩, fun t => numeral_iff⟩
  rintro ⟨token, read⟩
  exact wellFormed_of_ofText read

/-- White space around the number goes, and a point without digits before it stays. -/
example : Rule.ofText " less_than [ .5]" =
    .ok (.comparison .lessThan ⟨⟨false, 0x3FE0000000000000, by decide⟩, ".5"⟩) := by
  decide +kernel

end FormRules.Proofs.Reading
