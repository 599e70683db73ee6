import FormRules.Calendar
import FormRules.Proofs.Matching.Padded

/-!
# Dates

The texts that a date format accepts are the days of the Gregorian calendar from the year 1600 to
9999, written with leading zeros.
-/

namespace FormRules.Proofs.Matching
open Regex DateFormat

variable {c : Char} {cs : List Char} {r t u : Regex} {P Q : Nat → Prop} {d m y : Nat}

/-! ## The Gregorian calendar -/

def IsLeap (y : Nat) : Prop :=
  y % 4 = 0 ∧ (y % 100 ≠ 0 ∨ y % 400 = 0)

instance (y : Nat) : Decidable (IsLeap y) :=
  inferInstanceAs (Decidable (_ ∧ _))

def monthLength (m y : Nat) : Nat :=
  if m = 2 then if IsLeap y then 29 else 28
  else if m = 4 ∨ m = 6 ∨ m = 9 ∨ m = 11 then 30
  else 31

structure IsDate (d m y : Nat) : Prop where
  year : 1600 ≤ y ∧ y ≤ 9999
  month : 1 ≤ m ∧ m ≤ 12
  day : 1 ≤ d ∧ d ≤ monthLength m y

def written (f : DateFormat) (d m y : Nat) : List Char :=
  let s := f.separator.char
  match f.order with
  | .dayMonthYear => padded 2 d ++ s :: (padded 2 m ++ s :: padded 4 y)
  | .yearMonthDay => padded 4 y ++ s :: (padded 2 m ++ s :: padded 2 d)

/-! ## Parts of a date -/

theorem spells_century : Spells century 2 (16 ≤ ·) :=
  spells_of_table rfl (by decide) (by decide)

theorem spells_year : Spells year 4 fun y => 1600 ≤ y ∧ y ≤ 9999 := by
  have twoDigits : Spells (times 2 digit) 2 fun _ => True :=
    spells_of_table rfl (by decide) (by decide)
  apply (spells_century.cat twoDigits).congr
  intro y bound
  show 16 ≤ y / 100 ∧ True ↔ 1600 ≤ y ∧ y ≤ 9999
  rw [and_true]
  omega

theorem spells_leapYear : Spells leapYear 4 fun y => (1600 ≤ y ∧ y ≤ 9999) ∧ IsLeap y := by
  have multipleOfFour : Spells leapTwoDigits 2 fun n => 0 < n ∧ n % 4 = 0 :=
    spells_of_table rfl (by decide) (by decide)
  have leapCentury : Spells leapCentury 2 fun n => 16 ≤ n ∧ n % 4 = 0 :=
    spells_of_table rfl (by decide) (by decide)
  have zeros : Spells (text "00") 2 (· = 0) :=
    spells_of_table rfl (by decide) (by decide)
  apply ((spells_century.cat multipleOfFour).alt (leapCentury.cat zeros)).congr
  intro y bound
  unfold IsLeap
  omega

theorem spells_month : Spells month 2 fun m => 1 ≤ m ∧ m ≤ 12 :=
  spells_of_table rfl (by decide) (by decide)

theorem spells_longMonth : Spells longMonth 2 (· ∈ [1, 3, 5, 7, 8, 10, 12]) :=
  spells_of_table rfl (by decide) (by decide)

theorem spells_monthButFebruary : Spells monthButFebruary 2 fun m => 1 ≤ m ∧ m ≤ 12 ∧ m ≠ 2 :=
  spells_of_table rfl (by decide) (by decide)

theorem spells_february : Spells (text "02") 2 (· = 2) :=
  spells_of_table rfl (by decide) (by decide)

theorem spells_commonDay : Spells commonDay 2 fun d => 1 ≤ d ∧ d ≤ 28 :=
  spells_of_table rfl (by decide) (by decide)

theorem spells_29 : Spells (text "29") 2 (· = 29) :=
  spells_of_table rfl (by decide) (by decide)

theorem spells_29_or_30 : Spells (.alt (text "29") (text "30")) 2 fun d => d = 29 ∨ d = 30 :=
  spells_of_table rfl (by decide) (by decide)

theorem spells_31 : Spells (text "31") 2 (· = 31) :=
  spells_of_table rfl (by decide) (by decide)

/-! ## Whole dates -/

/-- The four kinds of days: 31sts, other days that February never has, leap days, and days that
every month has. -/
def InSomeKind (d m y : Nat) : Prop :=
  d = 31 ∧ m ∈ [1, 3, 5, 7, 8, 10, 12] ∧ (1600 ≤ y ∧ y ≤ 9999) ∨
    (d = 29 ∨ d = 30) ∧ (1 ≤ m ∧ m ≤ 12 ∧ m ≠ 2) ∧ (1600 ≤ y ∧ y ≤ 9999) ∨
    d = 29 ∧ m = 2 ∧ (1600 ≤ y ∧ y ≤ 9999) ∧ IsLeap y ∨
    (1 ≤ d ∧ d ≤ 28) ∧ (1 ≤ m ∧ m ≤ 12) ∧ (1600 ≤ y ∧ y ≤ 9999)

theorem isDate_iff : IsDate d m y ↔ InSomeKind d m y := by
  have conditions : IsDate d m y ↔ (1600 ≤ y ∧ y ≤ 9999) ∧ (1 ≤ m ∧ m ≤ 12) ∧
      1 ≤ d ∧ d ≤ monthLength m y :=
    ⟨fun ⟨year, month, day⟩ => ⟨year, month, day⟩, fun ⟨year, month, day⟩ => ⟨year, month, day⟩⟩
  rw [conditions]
  simp only [InSomeKind, monthLength, List.mem_cons, List.not_mem_nil, or_false]
  by_cases leap : IsLeap y
  · simp only [leap, if_true, and_true]
    split_ifs <;> omega
  · simp only [leap, if_false, and_false, false_or]
    split_ifs <;> omega

theorem Spells.separated {j k l : Nat} {P Q R : Nat → Prop} (first : Spells r j P)
    (second : Spells t k Q) (third : Spells u l R) :
    Matches (seq [r, Regex.char c, t, Regex.char c, u]) cs ↔
      ∃ a b e, cs = padded j a ++ c :: (padded k b ++ c :: padded l e) ∧
        (a < 10 ^ j ∧ P a) ∧ (b < 10 ^ k ∧ Q b) ∧ (e < 10 ^ l ∧ R e) := by
  simp only [seq, matches_cat, matches_char]
  constructor
  · rintro ⟨_, _, rfl, matched, _, _, rfl, rfl, _, _, rfl, matched', _, _, rfl, rfl, matched''⟩
    obtain ⟨a, small, holds, rfl⟩ := (first _).1 matched
    obtain ⟨b, small', holds', rfl⟩ := (second _).1 matched'
    obtain ⟨e, small'', holds'', rfl⟩ := (third _).1 matched''
    exact ⟨a, b, e, rfl, ⟨small, holds⟩, ⟨small', holds'⟩, ⟨small'', holds''⟩⟩
  · rintro ⟨a, b, e, rfl, ⟨small, holds⟩, ⟨small', holds'⟩, ⟨small'', holds''⟩⟩
    exact ⟨_, _, rfl, (first _).2 ⟨a, small, holds, rfl⟩, [c], _, rfl, rfl, _, _, rfl,
      (second _).2 ⟨b, small', holds', rfl⟩, [c], _, rfl, rfl,
      (third _).2 ⟨e, small'', holds'', rfl⟩⟩

def inOrder (f : DateFormat) (day month year : Regex) : Regex :=
  let s := Regex.char f.separator.char
  match f.order with
  | .dayMonthYear => seq [day, s, month, s, year]
  | .yearMonthDay => seq [year, s, month, s, day]

theorem regex_eq (f : DateFormat) : f.regex =
    anyOf [inOrder f (text "31") longMonth year,
      inOrder f (.alt (text "29") (text "30")) monthButFebruary year,
      inOrder f (text "29") (text "02") leapYear,
      inOrder f commonDay month year] := by
  obtain ⟨order, separator⟩ := f
  cases order <;> rfl

theorem matches_inOrder {P Q R : Nat → Prop} (f : DateFormat) (day : Spells r 2 P)
    (month : Spells t 2 Q) (year : Spells u 4 R) :
    Matches (inOrder f r t u) cs ↔ ∃ d m y, (P d ∧ Q m ∧ R y) ∧
      (d < 10 ^ 2 ∧ m < 10 ^ 2 ∧ y < 10 ^ 4) ∧ cs = written f d m y := by
  obtain ⟨order, separator⟩ := f
  cases order with
  | dayMonthYear =>
    rw [inOrder, day.separated month year]
    constructor
    · rintro ⟨d, m, y, rfl, day, month, year⟩
      exact ⟨d, m, y, ⟨day.2, month.2, year.2⟩, ⟨day.1, month.1, year.1⟩, rfl⟩
    · rintro ⟨d, m, y, ⟨day, month, year⟩, small, rfl⟩
      exact ⟨d, m, y, rfl, ⟨small.1, day⟩, ⟨small.2.1, month⟩, ⟨small.2.2, year⟩⟩
  | yearMonthDay =>
    rw [inOrder, year.separated month day]
    constructor
    · rintro ⟨y, m, d, rfl, year, month, day⟩
      exact ⟨d, m, y, ⟨day.2, month.2, year.2⟩, ⟨day.1, month.1, year.1⟩, rfl⟩
    · rintro ⟨d, m, y, ⟨day, month, year⟩, small, rfl⟩
      exact ⟨y, m, d, rfl, ⟨small.2.2, year⟩, ⟨small.2.1, month⟩, ⟨small.1, day⟩⟩

theorem IsDate.small (date : IsDate d m y) : d < 10 ^ 2 ∧ m < 10 ^ 2 ∧ y < 10 ^ 4 := by
  obtain ⟨year, month, day⟩ := date
  unfold monthLength at day
  split_ifs at day <;> omega

theorem matches_regex_iff (f : DateFormat) :
    Matches f.regex cs ↔ ∃ d m y, IsDate d m y ∧ cs = written f d m y := by
  have kinds : Matches f.regex cs ↔ ∃ d m y, InSomeKind d m y ∧
      (d < 10 ^ 2 ∧ m < 10 ^ 2 ∧ y < 10 ^ 4) ∧ cs = written f d m y := by
    simp only [regex_eq, anyOf, matches_alt,
      matches_inOrder f spells_31 spells_longMonth spells_year,
      matches_inOrder f spells_29_or_30 spells_monthButFebruary spells_year,
      matches_inOrder f spells_29 spells_february spells_leapYear,
      matches_inOrder f spells_commonDay spells_month spells_year, ← exists_or, ← or_and_right]
    rfl
  rw [kinds]
  constructor
  · rintro ⟨d, m, y, kind, -, same⟩
    exact ⟨d, m, y, isDate_iff.2 kind, same⟩
  · rintro ⟨d, m, y, date, same⟩
    exact ⟨d, m, y, isDate_iff.1 date, date.small, same⟩

theorem accepts_date_iff (f : DateFormat) (s : String) :
    f.accepts s = true ↔ ∃ d m y, IsDate d m y ∧ s.toList = written f d m y := by
  rw [DateFormat.accepts, accepts_iff, matches_regex_iff]

end FormRules.Proofs.Matching
