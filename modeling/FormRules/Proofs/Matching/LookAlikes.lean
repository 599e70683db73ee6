import FormRules.Proofs.Matching.Mail

/-!
# Look-alikes in mail addresses

Mail addresses are read without regard to case, and two characters outside ASCII differ from ASCII
letters by case only: the Kelvin sign and the long s. They stand wherever their letters may stand,
and no other character outside ASCII is accepted.
-/

namespace FormRules.Proofs.Matching
open Regex Pattern

variable {c : Char} {v w : String}

theorem exists_lowerAscii_email : ∃ r, lowerAscii r = true ∧ Syntax.email = r.caseless :=
  ⟨_, by decide, rfl⟩

theorem accepts_email_congr (same : v.toList.map fold = w.toList.map fold) :
    Pattern.email.accepts v = Pattern.email.accepts w := by
  obtain ⟨r, lower, email⟩ := exists_lowerAscii_email
  have folded (u : String) :
      Pattern.email.accepts u = true ↔ Matches r (u.toList.map fold) := by
    rw [Pattern.accepts, accepts_email_iff, email, matches_caseless_iff_fold lower]
  rw [Bool.eq_iff_iff, folded, folded, same]

theorem toNat_fold_lt_of_email (accepted : Pattern.email.accepts v = true) (mem : c ∈ v.toList) :
    (fold c).toNat < 128 := by
  obtain ⟨r, lower, email⟩ := exists_lowerAscii_email
  rw [Pattern.accepts, accepts_email_iff, email] at accepted
  exact toNat_fold_lt_of_matches lower accepted mem

theorem toNat_fold_lt_iff :
    (fold c).toNat < 128 ↔ c.toNat < 128 ∨ c = '\u212a' ∨ c = '\u017f' := by
  have kelvin : c = '\u212a' ↔ c.toNat = 0x212a := Char.toNat_inj.symm
  have longS : c = '\u017f' ↔ c.toNat = 0x17f := Char.toNat_inj.symm
  rw [toNat_fold, kelvin, longS]
  split_ifs <;> omega

/-- An accepted text is in ASCII exactly if it has neither of the two characters that fold to ASCII
from outside. What it folds to decides, so each of them is accepted in place of its letter. -/
theorem email_is_ascii_but_for_look_alikes {v : String}
    (accepted : Pattern.email.accepts v = true) :
    (∀ c ∈ v.toList, c.toNat < 128 ∨ c = '\u212a' ∨ c = '\u017f') ∧
      ((∀ c ∈ v.toList, c.toNat < 128) ↔ '\u212a' ∉ v.toList ∧ '\u017f' ∉ v.toList) ∧
      ∀ w : String, w.toList.map fold = v.toList.map fold → Pattern.email.accepts w = true := by
  have chars (c) (mem : c ∈ v.toList) : c.toNat < 128 ∨ c = '\u212a' ∨ c = '\u017f' :=
    toNat_fold_lt_iff.1 (toNat_fold_lt_of_email accepted mem)
  refine ⟨chars, ⟨?_, ?_⟩, ?_⟩
  · intro ascii
    exact ⟨fun kelvin => absurd (ascii _ kelvin) (by decide),
      fun longS => absurd (ascii _ longS) (by decide)⟩
  · rintro ⟨noKelvin, noLongS⟩ c mem
    rcases chars c mem with small | rfl | rfl
    · exact small
    · exact absurd mem noKelvin
    · exact absurd mem noLongS
  · intro w same
    rw [accepts_email_congr same, accepted]

theorem look_alike_of_sam :
    Pattern.email.accepts "\u017fam@ban\u212a.\u017fk" = true ∧
      ∀ c ∈ "sam@bank.sk".toList, c.toNat < 128 := by
  have accepted : Pattern.email.accepts "sam@bank.sk" = true := by decide
  obtain ⟨-, ascii, alike⟩ := email_is_ascii_but_for_look_alikes accepted
  exact ⟨alike _ (by decide), ascii.2 (by decide)⟩

theorem accepted_outside_ascii :
    ¬∀ v : String, Pattern.email.accepts v = true → ∀ c ∈ v.toList, c.toNat < 128 := by
  intro ascii
  have accepted : Pattern.email.accepts "\u017fam@ban\u212a.\u017fk" = true := by decide
  exact absurd (ascii _ accepted '\u212a' (by decide)) (by decide)

end FormRules.Proofs.Matching
