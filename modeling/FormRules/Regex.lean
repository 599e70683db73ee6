/-!
Regular expressions over characters, what they match, and a matcher.

`Regex.Matches` says which texts an expression matches. `Regex.accepts` decides it by partial
derivatives: a set of expressions, one of which matches the rest of the text exactly when the whole
text is matched. Main statement: `Regex.accepts_iff`.
-/

namespace FormRules

/--
Characters that differ from `c` only by case, and `c`, as far as ASCII letters take part: the
Kelvin sign goes with `k`, the long s with `s`.
-/
def caseVariants (c : Char) : List Char :=
  if c == 'k' || c == 'K' || c == '\u212a' then ['k', 'K', '\u212a']
  else if c == 's' || c == 'S' || c == '\u017f' then ['s', 'S', '\u017f']
  else if c.isLower then [c, c.toUpper]
  else if c.isUpper then [c, c.toLower]
  else [c]

/-- A set of characters: inclusive ranges, or all others; perhaps without regard to case. -/
structure CharSet where
  ranges : List (Char × Char)
  complemented : Bool := false
  caseless : Bool := false
deriving DecidableEq, Repr

namespace CharSet

def inRanges (s : CharSet) (c : Char) : Bool :=
  s.ranges.any fun (lo, hi) => lo ≤ c && c ≤ hi

def contains (s : CharSet) (c : Char) : Bool :=
  (if s.caseless then (caseVariants c).any s.inRanges else s.inRanges c) != s.complemented

def ofString (s : String) : CharSet :=
  { ranges := s.toList.map fun c => (c, c) }

def ofRange (lo hi : Char) : CharSet :=
  { ranges := [(lo, hi)] }

/-- Both sets; meant for sets that are not complements. -/
def union (s t : CharSet) : CharSet :=
  { ranges := s.ranges ++ t.ranges }

instance : Append CharSet :=
  ⟨union⟩

end CharSet

inductive Regex where
  | none
  | empty
  | chars (s : CharSet)
  | alt (r t : Regex)
  | cat (r t : Regex)
  | star (r : Regex)
deriving DecidableEq, Repr

namespace Regex

inductive Matches : Regex → List Char → Prop where
  | empty : Matches .empty []
  | chars {s c} : s.contains c = true → Matches (.chars s) [c]
  | altLeft {r t cs} : Matches r cs → Matches (.alt r t) cs
  | altRight {r t cs} : Matches t cs → Matches (.alt r t) cs
  | cat {r t cs ds} : Matches r cs → Matches t ds → Matches (.cat r t) (cs ++ ds)
  | starNil {r} : Matches (.star r) []
  | starCons {r cs ds} : Matches r cs → Matches (.star r) ds → Matches (.star r) (cs ++ ds)

/-! ## Building expressions -/

def seq : List Regex → Regex
  | [] => .empty
  | [r] => r
  | r :: rs => .cat r (seq rs)

def anyOf : List Regex → Regex
  | [] => .none
  | [r] => r
  | r :: rs => .alt r (anyOf rs)

def char (c : Char) : Regex :=
  .chars (.ofRange c c)

def range (lo hi : Char) : Regex :=
  .chars (.ofRange lo hi)

def digit : Regex :=
  range '0' '9'

def oneOf (s : String) : Regex :=
  .chars (.ofString s)

def text (s : String) : Regex :=
  seq (s.toList.map char)

def opt (r : Regex) : Regex :=
  .alt r .empty

def plus (r : Regex) : Regex :=
  .cat r (.star r)

def times : Nat → Regex → Regex
  | 0, _ => .empty
  | 1, r => r
  | n + 1, r => .cat r (times n r)

def upTo : Nat → Regex → Regex
  | 0, _ => .empty
  | n + 1, r => opt (.cat r (upTo n r))

def between (lo hi : Nat) (r : Regex) : Regex :=
  .cat (times lo r) (upTo (hi - lo) r)

def atLeast (n : Nat) (r : Regex) : Regex :=
  .cat (times n r) (.star r)

/-- The same expression without regard to case. -/
def caseless : Regex → Regex
  | .none => .none
  | .empty => .empty
  | .chars s => .chars { s with caseless := true }
  | .alt r t => .alt r.caseless t.caseless
  | .cat r t => .cat r.caseless t.caseless
  | .star r => .star r.caseless

def anything : Regex :=
  .star (.chars { ranges := [], complemented := true })

/-! ## Matching -/

def nullable : Regex → Bool
  | .none => false
  | .empty => true
  | .chars _ => false
  | .alt r t => r.nullable || t.nullable
  | .cat r t => r.nullable && t.nullable
  | .star _ => true

/-- `cat`, with an empty first part left out. -/
def andThen : Regex → Regex → Regex
  | .empty, t => t
  | r, t => .cat r t

/-- Expressions that together match what may follow `c`. -/
def partials (c : Char) : Regex → List Regex
  | .none => []
  | .empty => []
  | .chars s => if s.contains c then [.empty] else []
  | .alt r t => partials c r ++ partials c t
  | .cat r t => (partials c r).map (·.andThen t) ++ if r.nullable then partials c t else []
  | .star r => (partials c r).map (·.andThen (.star r))

def step (states : List Regex) (c : Char) : List Regex :=
  (states.flatMap (partials c)).eraseDups

/-- Whether one of the states matches the text. -/
def acceptsFrom (states : List Regex) (cs : List Char) : Bool :=
  (cs.foldl step states).any nullable

def accepts (r : Regex) (cs : List Char) : Bool :=
  acceptsFrom [r] cs

/-! ## The matcher decides matching -/

theorem matches_alt {r t : Regex} {cs : List Char} :
    Matches (.alt r t) cs ↔ Matches r cs ∨ Matches t cs :=
  ⟨fun h => by cases h with
    | altLeft h => exact .inl h
    | altRight h => exact .inr h, fun h => h.elim .altLeft .altRight⟩

theorem matches_cat {r t : Regex} {cs : List Char} :
    Matches (.cat r t) cs ↔ ∃ a b, cs = a ++ b ∧ Matches r a ∧ Matches t b :=
  ⟨fun h => by cases h with
    | cat ha hb => exact ⟨_, _, rfl, ha, hb⟩, fun ⟨_, _, h, ha, hb⟩ => h ▸ .cat ha hb⟩

theorem matches_empty {cs : List Char} : Matches .empty cs ↔ cs = [] :=
  ⟨fun h => by cases h; rfl, fun h => h ▸ .empty⟩

theorem matches_chars {s : CharSet} {cs : List Char} :
    Matches (.chars s) cs ↔ ∃ c, cs = [c] ∧ s.contains c = true :=
  ⟨fun h => by cases h with
    | chars h => exact ⟨_, rfl, h⟩, fun ⟨_, h, hc⟩ => h ▸ .chars hc⟩

theorem not_matches_none {cs : List Char} : ¬ Matches .none cs :=
  nofun

theorem matches_star_cons {r : Regex} {c : Char} {cs : List Char} :
    Matches (.star r) (c :: cs) ↔
      ∃ a b, cs = a ++ b ∧ Matches r (c :: a) ∧ Matches (.star r) b := by
  constructor
  · intro h
    generalize hs : Regex.star r = s at h
    generalize hd : c :: cs = ds at h
    induction h with
    | starNil => cases hd
    | @starCons r' as bs ha hb _ ih =>
      cases hs
      cases as with
      | nil => exact ih rfl hd
      | cons a as =>
        obtain ⟨rfl, rfl⟩ := List.cons.inj hd
        exact ⟨as, bs, rfl, ha, hb⟩
    | _ => cases hs
  · rintro ⟨a, b, rfl, ha, hb⟩
    exact .starCons ha hb

theorem nullable_iff {r : Regex} : r.nullable = true ↔ Matches r [] := by
  induction r with
  | none => simp [nullable, not_matches_none]
  | empty => simp [nullable, matches_empty]
  | chars s => simp [nullable, matches_chars]
  | alt r t hr ht => simp [nullable, matches_alt, hr, ht]
  | cat r t hr ht =>
    simp only [nullable, Bool.and_eq_true, hr, ht, matches_cat]
    constructor
    · exact fun ⟨h₁, h₂⟩ => ⟨[], [], rfl, h₁, h₂⟩
    · rintro ⟨a, b, h, ha, hb⟩
      obtain ⟨rfl, rfl⟩ := List.append_eq_nil_iff.mp h.symm
      exact ⟨ha, hb⟩
  | star r => simp [nullable, Matches.starNil]

theorem matches_andThen {r t : Regex} {cs : List Char} :
    Matches (r.andThen t) cs ↔ Matches (.cat r t) cs := by
  cases r with
  | empty =>
    rw [matches_cat]
    constructor
    · exact fun h => ⟨[], cs, rfl, .empty, h⟩
    · rintro ⟨a, b, rfl, ha, hb⟩
      rwa [matches_empty.mp ha]
  | _ => rfl

theorem exists_map_andThen_iff {ps : List Regex} {t : Regex} {cs : List Char} :
    (∃ p ∈ ps.map (·.andThen t), Matches p cs) ↔
      ∃ a b, cs = a ++ b ∧ (∃ p ∈ ps, Matches p a) ∧ Matches t b := by
  constructor
  · rintro ⟨_, mem, h⟩
    obtain ⟨p, hp, rfl⟩ := List.mem_map.mp mem
    obtain ⟨a, b, rfl, ha, hb⟩ := matches_cat.mp (matches_andThen.mp h)
    exact ⟨a, b, rfl, ⟨p, hp, ha⟩, hb⟩
  · rintro ⟨a, b, rfl, ⟨p, mem, ha⟩, hb⟩
    exact ⟨_, List.mem_map.mpr ⟨p, mem, rfl⟩, matches_andThen.mpr (.cat ha hb)⟩

theorem exists_partials_iff {r : Regex} {c : Char} {cs : List Char} :
    (∃ p ∈ partials c r, Matches p cs) ↔ Matches r (c :: cs) := by
  induction r generalizing cs with
  | none => simp [partials, not_matches_none]
  | empty => simp [partials, matches_empty]
  | chars s =>
    simp only [partials, matches_chars, List.cons.injEq]
    constructor
    · rintro ⟨p, mem, h⟩
      split at mem
      · rename_i hc
        obtain rfl := List.mem_singleton.mp mem
        exact ⟨c, ⟨rfl, matches_empty.mp h⟩, hc⟩
      · cases mem
    · rintro ⟨_, ⟨rfl, rfl⟩, hc⟩
      exact ⟨.empty, by simp [hc], .empty⟩
  | alt r t hr ht => simp [partials, matches_alt, or_and_right, exists_or, hr, ht]
  | cat r t hr ht =>
    have second : (∃ p ∈ (if r.nullable then partials c t else []), Matches p cs) ↔
        Matches r [] ∧ Matches t (c :: cs) := by
      rw [← nullable_iff, ← ht]
      by_cases h : r.nullable = true <;> simp [h]
    simp only [partials, List.mem_append, or_and_right, exists_or, exists_map_andThen_iff, hr,
      second, matches_cat]
    constructor
    · rintro (⟨a, b, rfl, ha, hb⟩ | ⟨ha, hb⟩)
      · exact ⟨c :: a, b, rfl, ha, hb⟩
      · exact ⟨[], c :: cs, rfl, ha, hb⟩
    · rintro ⟨a, b, h, ha, hb⟩
      cases a with
      | nil => exact .inr ⟨ha, h ▸ hb⟩
      | cons d a =>
        obtain ⟨rfl, rfl⟩ := List.cons.inj h
        exact .inl ⟨a, b, rfl, ha, hb⟩
  | star r ih => simp only [partials, exists_map_andThen_iff, ih, matches_star_cons]

theorem acceptsFrom_iff {states : List Regex} {cs : List Char} :
    acceptsFrom states cs = true ↔ ∃ r ∈ states, Matches r cs := by
  induction cs generalizing states with
  | nil => simp [acceptsFrom, nullable_iff]
  | cons c cs ih =>
    have : acceptsFrom states (c :: cs) = acceptsFrom (step states c) cs := rfl
    simp only [this, ih, step, List.mem_eraseDups, List.mem_flatMap, ← exists_partials_iff]
    constructor
    · rintro ⟨p, ⟨r, hr, mem⟩, h⟩
      exact ⟨r, hr, p, mem, h⟩
    · rintro ⟨r, hr, p, mem, h⟩
      exact ⟨p, ⟨r, hr, mem⟩, h⟩

/-- The matcher accepts exactly the texts that the expression matches. -/
theorem accepts_iff {r : Regex} {cs : List Char} : r.accepts cs = true ↔ Matches r cs := by
  simp [accepts, acceptsFrom_iff]

end Regex

end FormRules
