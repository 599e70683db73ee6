/-!
Text as lists of characters: white space, trimming, and splitting at a separator.

White space is the Unicode property `White_Space`. `trim` drops it at both ends and `strip`
everywhere.
-/

namespace FormRules.Text

/-- The Unicode property `White_Space`. -/
def isSpace (c : Char) : Bool :=
  let n := c.toNat
  (9 ≤ n && n ≤ 13) || n == 0x20 || n == 0x85 || n == 0xA0 || n == 0x1680 ||
    (0x2000 ≤ n && n ≤ 0x200A) || n == 0x2028 || n == 0x2029 || n == 0x202F || n == 0x205F ||
    n == 0x3000

def trimStart (cs : List Char) : List Char :=
  cs.dropWhile isSpace

def trimEnd (cs : List Char) : List Char :=
  (trimStart cs.reverse).reverse

def trim (cs : List Char) : List Char :=
  trimEnd (trimStart cs)

def strip (cs : List Char) : List Char :=
  cs.filter fun c => !isSpace c

def isBlank (cs : List Char) : Bool :=
  cs.all isSpace

def trimmed (s : String) : String :=
  String.ofList (trim s.toList)

/-- The parts between the separators: one more than there are separators. -/
def splitOn (sep : Char) : List Char → List (List Char)
  | [] => [[]]
  | c :: cs =>
    if c = sep then [] :: splitOn sep cs
    else
      match splitOn sep cs with
      | [] => [[c]]
      | part :: parts => (c :: part) :: parts

def splitOnce? (sep : Char) : List Char → Option (List Char × List Char)
  | [] => none
  | c :: cs =>
    if c = sep then some ([], cs)
    else (splitOnce? sep cs).map fun (before, after) => (c :: before, after)

/-- The text without its last character, which has to be `c`. -/
def dropLast? (c : Char) (cs : List Char) : Option (List Char) :=
  if cs.getLast? = some c then some cs.dropLast else none

def dropPrefix? : (start : List Char) → List Char → Option (List Char)
  | [], cs => some cs
  | _ :: _, [] => none
  | a :: start, c :: cs => if a = c then dropPrefix? start cs else none

theorem trimStart_eq_nil_iff {cs : List Char} : trimStart cs = [] ↔ ∀ c ∈ cs, isSpace c = true := by
  induction cs with
  | nil => simp [trimStart]
  | cons c cs ih =>
    by_cases h : isSpace c = true
    · rw [trimStart, List.dropWhile_cons_of_pos h, List.forall_mem_cons]
      exact ⟨fun e => ⟨h, ih.1 e⟩, fun all => ih.2 all.2⟩
    · simp [trimStart, h]

theorem mem_trimStart_of_not_isSpace {c : Char} {cs : List Char} (h : isSpace c = false)
    (mem : c ∈ cs) : c ∈ trimStart cs := by
  induction cs with
  | nil => cases mem
  | cons d cs ih =>
    by_cases hd : isSpace d = true
    · have tail : c ∈ cs := by
        rcases List.mem_cons.mp mem with rfl | tail
        · simp [h] at hd
        · exact tail
      simpa [trimStart, hd] using ih tail
    · simpa [trimStart, hd] using mem

theorem trim_eq_nil_iff {cs : List Char} : trim cs = [] ↔ isBlank cs = true := by
  simp only [trim, trimEnd, List.reverse_eq_nil_iff, trimStart_eq_nil_iff, List.mem_reverse,
    isBlank, List.all_eq_true]
  refine ⟨fun all c mem => ?_, fun all c mem => all c ?_⟩
  · cases h : isSpace c with
    | true => rfl
    | false => exact h.symm.trans (all c (mem_trimStart_of_not_isSpace h mem))
  · exact (List.dropWhile_sublist _).subset mem

theorem splitOn_ne_nil (sep : Char) (cs : List Char) : splitOn sep cs ≠ [] := by
  cases cs with
  | nil => simp [splitOn]
  | cons c cs =>
    simp only [splitOn]
    split
    · simp
    · split <;> simp

end FormRules.Text
