import FormRules.Data.Json
import FormRules.Proofs.Matching.Numbers

/-!
# JSON texts

How trees are written as JSON without blanks, and that what is written is read back: trees of texts,
truth values and natural numbers that do not nest too deep. The notation of doubles is left open.
-/

namespace FormRules.Proofs.RoundTrip
open Data (Number)
open Data.Json Matching

/-! ## Writing -/

def shortEscape? : Char → Option Char
  | '"' => some '"'
  | '\\' => some '\\'
  | '\x08' => some 'b'
  | '\x0c' => some 'f'
  | '\n' => some 'n'
  | '\r' => some 'r'
  | '\t' => some 't'
  | _ => none

def writeChar (c : Char) : List Char :=
  match shortEscape? c with
  | some e => ['\\', e]
  | none =>
    if c.toNat < 0x20 then
      ['\\', 'u', '0', '0', Nat.digitChar (c.toNat / 16), Nat.digitChar (c.toNat % 16)]
    else [c]

def writeString (s : String) : List Char :=
  '"' :: (s.toList.flatMap writeChar ++ ['"'])

section Writing
variable (double : Binary64 → List Char)

def writeNumber : Number → List Char
  | .natural n => Nat.toDigits 10 n
  | .negative n => '-' :: Nat.toDigits 10 n
  | .real x => double x

mutual

def write : Data → List Char
  | .null => "null".toList
  | .bool true => "true".toList
  | .bool false => "false".toList
  | .number n => writeNumber double n
  | .text s => writeString s
  | .list xs => '[' :: writeItems xs
  | .record es => '{' :: writeMembers es

def writeItems : List Data → List Char
  | [] => [']']
  | [x] => write x ++ [']']
  | x :: y :: xs => write x ++ ',' :: writeItems (y :: xs)

def writeMembers : List (String × Data) → List Char
  | [] => ['}']
  | [(key, x)] => writeString key ++ ':' :: (write x ++ ['}'])
  | (key, x) :: e :: es => writeString key ++ ':' :: (write x ++ ',' :: writeMembers (e :: es))

end

def json (d : Data) : String :=
  String.ofList (write double d)

end Writing

/-- A tree without doubles and negative numbers that nests at most so deep. -/
inductive Plain : Nat → Data → Prop where
  | null {depth} : Plain depth .null
  | bool {depth} (b) : Plain depth (.bool b)
  | natural {depth n} (fits : n < Number.unsignedLimit) : Plain depth (.number (.natural n))
  | text {depth} (s) : Plain depth (.text s)
  | list {depth xs} (plain : ∀ x ∈ xs, Plain depth x) : Plain (depth + 1) (.list xs)
  | record {depth es} (plain : ∀ e ∈ es, Plain depth e.2) : Plain (depth + 1) (.record es)

variable {double : Binary64 → List Char} {c e : Char} {cs rest : List Char} {d x : Data}
  {xs : List Data} {es : List (String × Data)} {key : String} {depth n fuel : Nat}

attribute [simp] Plain.null Plain.bool Plain.text

@[simp] theorem plain_natural_iff :
    Plain depth (.number (.natural n)) ↔ n < Number.unsignedLimit := by
  constructor
  · rintro ⟨⟩
    assumption
  · exact .natural

@[simp] theorem plain_list_iff : Plain (depth + 1) (.list xs) ↔ ∀ x ∈ xs, Plain depth x := by
  constructor
  · rintro ⟨⟩
    assumption
  · exact .list

@[simp] theorem plain_record_iff :
    Plain (depth + 1) (.record es) ↔ ∀ e ∈ es, Plain depth e.2 := by
  constructor
  · rintro ⟨⟩
    assumption
  · exact .record

/-! ## Reading strings -/

theorem escape?_of_shortEscape? (short : shortEscape? c = some e) :
    escape? e = some c ∧ e ≠ 'u' := by
  unfold shortEscape? at short
  split at short <;> cases short <;> decide

theorem not_special_of_shortEscape? (long : shortEscape? c = none) : c ≠ '"' ∧ c ≠ '\\' := by
  constructor <;> rintro rfl <;> cases long

theorem hexValue?_of_lt (small : n < 0x20) :
    hexValue? ['0', '0', Nat.digitChar (n / 16), Nat.digitChar (n % 16)] = some n := by
  decide +revert

theorem string?_writeChar (c : Char) (rest : List Char) :
    string? none (writeChar c ++ rest) =
      (string? none rest).map fun (cs, r) => (c :: cs, r) := by
  unfold writeChar
  split
  · rename_i e short
    obtain ⟨read, other⟩ := escape?_of_shortEscape? short
    simp [string?, read, other]
  · rename_i long
    obtain ⟨quote, backslash⟩ := not_special_of_shortEscape? long
    split
    · rename_i control
      have high : isHighSurrogate c.toNat = false := by simp [isHighSurrogate]; omega
      have low : isLowSurrogate c.toNat = false := by simp [isLowSurrogate]; omega
      simp [string?, hexValue?_of_lt control, high, low]
    · rename_i printed
      simp [string?, quote, backslash, printed]

theorem string?_flatMap_writeChar (cs rest : List Char) :
    string? none (cs.flatMap writeChar ++ '"' :: rest) = some (cs, rest) := by
  induction cs with
  | nil => rfl
  | cons c cs ih =>
    rw [List.flatMap_cons, List.append_assoc, string?_writeChar, ih]
    rfl

theorem writeString_append (s : String) (rest : List Char) :
    writeString s ++ rest = '"' :: (s.toList.flatMap writeChar ++ '"' :: rest) := by
  simp [writeString]

/-! ## Reading numbers -/

def Closed (rest : List Char) : Prop :=
  ∀ c ∈ rest.head?, c = ',' ∨ c = ']' ∨ c = '}'

theorem digits_append (closed : Closed rest) (whole : Digits cs) :
    digits (cs ++ rest) = (cs, rest) := by
  have stops : rest.takeWhile Char.isDigit = [] ∧ rest.dropWhile Char.isDigit = rest := by
    cases rest with
    | nil => exact ⟨rfl, rfl⟩
    | cons c rest =>
      have other : ¬c.isDigit = true := by
        rcases closed c rfl with rfl | rfl | rfl <;> decide
      exact ⟨List.takeWhile_cons_of_neg other, List.dropWhile_cons_of_neg other⟩
  rw [digits, List.takeWhile_append_of_pos whole, List.dropWhile_append_of_pos whole, stops.1,
    stops.2, List.append_nil]

theorem fraction?_of_closed (closed : Closed rest) : fraction? rest = some ([], rest) := by
  unfold fraction?
  split
  · rcases closed '.' rfl with point | point | point <;> cases point
  · rfl

theorem exponent?_of_closed (closed : Closed rest) : exponent? rest = some (none, rest) := by
  cases rest with
  | nil => rfl
  | cons c rest => rcases closed c rfl with rfl | rfl | rfl <;> rfl

theorem head?_toDigits (positive : 0 < n) : (Nat.toDigits 10 n).head? ≠ some '0' := by
  induction n using Nat.strongRecOn with
  | _ n ih =>
    rw [Nat.toDigits_eq_if (by decide)]
    split
    · rename_i small
      have other : ∀ k < 10, 0 < k → Nat.digitChar k ≠ '0' := by decide
      simpa using other n small positive
    · rename_i large
      rw [List.head?_append_of_ne_nil _ Nat.toDigits_ne_nil]
      exact ih (n / 10) (by omega) (by omega)

theorem exists_digit (n : Nat) : ∃ c cs, Nat.toDigits 10 n = c :: cs ∧ c.isDigit = true := by
  obtain ⟨c, cs, digits⟩ := List.exists_cons_of_ne_nil (Nat.toDigits_ne_nil (b := 10) (n := n))
  exact ⟨c, cs, digits, digits_toDigits n c (by simp [digits])⟩

theorem unsigned?_toDigits (closed : Closed rest) (fits : n < Number.unsignedLimit) :
    unsigned? false (Nat.toDigits 10 n ++ rest) = some (.natural n, rest) := by
  have single : ((Nat.toDigits 10 n).head? == some '0' && (Nat.toDigits 10 n).length > 1) =
      false := by
    rcases Nat.eq_zero_or_pos n with rfl | positive
    · decide
    · simp [head?_toDigits positive]
  have value : digitsValue (Nat.toDigits 10 n) = n := Nat.ofDigitChars_ten_toDigits
  simp only [unsigned?, digits_append closed (digits_toDigits n), single,
    fraction?_of_closed closed, Option.bind_eq_bind, Option.bind_some, exponent?_of_closed closed]
  simp [classify?, value, fits, Nat.toDigits_ne_nil]

/-! ## Reading values -/

theorem isBlank_of_isDigit (digit : c.isDigit = true) : isBlank c = false := by
  have other (e : Char) (other : e.isDigit = false) : (c == e) = false :=
    beq_eq_false_iff_ne.2 (ne_of_isDigit digit other)
  simp [isBlank, other]

theorem skipBlanks_cons (notBlank : isBlank c = false) : skipBlanks (c :: cs) = c :: cs := by
  simp [skipBlanks, notBlank]

theorem exists_head (double : Binary64 → List Char) (plain : Plain depth d) :
    ∃ c cs, write double d = c :: cs ∧ isBlank c = false ∧ c ≠ ']' := by
  cases plain with
  | null => exact ⟨'n', _, rfl, by decide⟩
  | bool b => cases b <;> exact ⟨_, _, rfl, by decide⟩
  | text s => exact ⟨'"', _, rfl, by decide⟩
  | list plain => exact ⟨'[', _, rfl, by decide⟩
  | record plain => exact ⟨'{', _, rfl, by decide⟩
  | @natural _ n fits =>
    obtain ⟨c, cs, digits, digit⟩ := exists_digit n
    exact ⟨c, cs, digits, isBlank_of_isDigit digit, ne_of_isDigit digit rfl⟩

theorem value?_of_isDigit (digit : c.isDigit = true) :
    value? (fuel + 1) depth (c :: cs) =
      (unsigned? false (c :: cs)).map fun (n, r) => (.number n, r) := by
  have unsigned : number? (c :: cs) = unsigned? false (c :: cs) := by
    rw [number?]
    intro cs same
    exact ne_of_isDigit digit rfl (List.cons.inj same).1
  rw [value?, skipBlanks_cons (isBlank_of_isDigit digit)]
  -- The other cases begin with a character that is no digit.
  split
  case h_7 => rw [unsigned]
  all_goals rename_i same; exact absurd (List.cons.inj same).1 (ne_of_isDigit digit rfl)

def ReadsBack (double : Binary64 → List Char) (depth : Nat) (d : Data) : Prop :=
  ∀ rest fuel, Closed rest → 2 * (write double d).length ≤ fuel + 1 →
    value? (fuel + 1) depth (write double d ++ rest) = some (d, rest)

theorem closed_comma : Closed (',' :: rest) := by
  simp [Closed]

theorem closed_bracket : Closed (']' :: rest) := by
  simp [Closed]

theorem closed_brace : Closed ('}' :: rest) := by
  simp [Closed]

theorem items?_of_comma (read : value? fuel depth cs = some (x, ',' :: rest)) :
    items? (fuel + 1) depth cs = (items? fuel depth rest).map fun (xs, r) => (x :: xs, r) := by
  simp (disch := decide) only [items?, read, Option.bind_eq_bind, Option.bind_some,
    skipBlanks_cons, Option.map_eq_bind]
  rfl

theorem items?_of_bracket (read : value? fuel depth cs = some (x, ']' :: rest)) :
    items? (fuel + 1) depth cs = some ([x], rest) := by
  simp (disch := decide) only [items?, read, Option.bind_eq_bind, Option.bind_some,
    skipBlanks_cons]

theorem items?_writeItems (filled : xs ≠ []) (reads : ∀ x ∈ xs, ReadsBack double depth x)
    (enough : 2 * (writeItems double xs).length + 1 ≤ fuel) :
    items? fuel depth (writeItems double xs ++ rest) = some (xs, rest) := by
  induction xs generalizing fuel with
  | nil => cases filled rfl
  | cons x xs ih =>
    obtain ⟨first, others⟩ := List.forall_mem_cons.1 reads
    cases xs with
    | nil =>
      simp only [writeItems, List.append_assoc, List.length_append, List.length_singleton]
        at enough ⊢
      obtain ⟨fuel, rfl⟩ := Nat.exists_eq_add_of_le' (show 2 ≤ fuel by omega)
      exact items?_of_bracket (first _ _ closed_bracket (by omega))
    | cons y ys =>
      simp only [writeItems, List.append_assoc, List.length_append, List.length_cons] at enough ⊢
      obtain ⟨fuel, rfl⟩ := Nat.exists_eq_add_of_le' (show 2 ≤ fuel by omega)
      rw [List.cons_append, items?_of_comma (first _ _ closed_comma (by omega)),
        ih (List.cons_ne_nil y ys) others (by omega)]
      rfl

theorem members?_of_comma (read : value? fuel depth cs = some (x, ',' :: rest)) :
    members? (fuel + 1) depth (writeString key ++ ':' :: cs) =
      (members? fuel depth rest).map fun (es, r) => ((key, x) :: es, r) := by
  simp (disch := decide) only [members?, writeString_append, string?_flatMap_writeChar, read,
    Option.bind_eq_bind, Option.bind_some, skipBlanks_cons, String.ofList_toList,
    Option.map_eq_bind]
  rfl

theorem members?_of_brace (read : value? fuel depth cs = some (x, '}' :: rest)) :
    members? (fuel + 1) depth (writeString key ++ ':' :: cs) = some ([(key, x)], rest) := by
  simp (disch := decide) only [members?, writeString_append, string?_flatMap_writeChar, read,
    Option.bind_eq_bind, Option.bind_some, skipBlanks_cons, String.ofList_toList]

theorem members?_writeMembers (filled : es ≠ []) (reads : ∀ e ∈ es, ReadsBack double depth e.2)
    (enough : 2 * (writeMembers double es).length + 1 ≤ fuel) :
    members? fuel depth (writeMembers double es ++ rest) = some (es, rest) := by
  induction es generalizing fuel with
  | nil => cases filled rfl
  | cons e es ih =>
    obtain ⟨key, x⟩ := e
    have first : ReadsBack double depth x := reads (key, x) List.mem_cons_self
    have others := fun e mem => reads e (List.mem_cons_of_mem _ mem)
    cases es with
    | nil =>
      simp only [writeMembers, List.append_assoc, List.cons_append, List.length_append,
        List.length_cons] at enough ⊢
      obtain ⟨fuel, rfl⟩ := Nat.exists_eq_add_of_le' (show 2 ≤ fuel by omega)
      exact members?_of_brace (first _ _ closed_brace (by omega))
    | cons e es =>
      simp only [writeMembers, List.append_assoc, List.cons_append, List.length_append,
        List.length_cons] at enough ⊢
      obtain ⟨fuel, rfl⟩ := Nat.exists_eq_add_of_le' (show 2 ≤ fuel by omega)
      rw [members?_of_comma (first _ _ closed_comma (by omega)),
        ih (List.cons_ne_nil e es) others (by omega)]
      rfl

theorem exists_head_items (double : Binary64 → List Char) (xs : List Data)
    (plain : Plain depth x) :
    ∃ c cs, writeItems double (x :: xs) = c :: cs ∧ isBlank c = false ∧ c ≠ ']' := by
  obtain ⟨c, cs, head, other⟩ := exists_head double plain
  cases xs with
  | nil => exact ⟨c, _, by rw [writeItems, head, List.cons_append], other⟩
  | cons y ys => exact ⟨c, _, by rw [writeItems, head, List.cons_append], other⟩

theorem value?_bracket (notBlank : isBlank c = false) (other : c ≠ ']') :
    value? (fuel + 1) (depth + 1) ('[' :: c :: cs) =
      (items? fuel depth (c :: cs)).map fun (xs, r) => (.list xs, r) := by
  have skip : skipBlanks ('[' :: c :: cs) = '[' :: c :: cs := skipBlanks_cons rfl
  simp only [value?, skip, skipBlanks_cons notBlank]
  split
  · rename_i zero
    cases zero
  · rename_i same _
    exact absurd (List.cons.inj same).1 other
  · rename_i deeper _
    cases deeper
    rfl

theorem value?_list (plain : ∀ x ∈ xs, Plain depth x)
    (reads : ∀ x ∈ xs, ReadsBack double depth x)
    (enough : 2 * (writeItems double xs).length + 1 ≤ fuel) :
    value? (fuel + 1) (depth + 1) ('[' :: (writeItems double xs ++ rest)) =
      some (.list xs, rest) := by
  cases xs with
  | nil => rfl
  | cons x xs =>
    -- No item begins with a bracket that would end the list.
    obtain ⟨c, cs, head, notBlank, notBracket⟩ :=
      exists_head_items double xs (plain x List.mem_cons_self)
    rw [head, List.cons_append, value?_bracket notBlank notBracket, ← List.cons_append, ← head,
      items?_writeItems (List.cons_ne_nil x xs) reads enough]
    rfl

theorem exists_head_members (double : Binary64 → List Char) (filled : es ≠ []) :
    ∃ cs, writeMembers double es = '"' :: cs := by
  rcases es with _ | ⟨⟨key, x⟩, _ | ⟨e, es⟩⟩
  · cases filled rfl
  · exact ⟨_, by rw [writeMembers, writeString, List.cons_append]⟩
  · exact ⟨_, by rw [writeMembers, writeString, List.cons_append]⟩

theorem value?_brace : value? (fuel + 1) (depth + 1) ('{' :: '"' :: cs) =
    (members? fuel depth ('"' :: cs)).map fun (es, r) => (.record es, r) := by
  simp (disch := decide) only [value?, skipBlanks_cons]
  rfl

theorem value?_record (reads : ∀ e ∈ es, ReadsBack double depth e.2)
    (enough : 2 * (writeMembers double es).length + 1 ≤ fuel) :
    value? (fuel + 1) (depth + 1) ('{' :: (writeMembers double es ++ rest)) =
      some (.record es, rest) := by
  cases es with
  | nil => rfl
  | cons e es =>
    obtain ⟨cs, head⟩ := exists_head_members double (List.cons_ne_nil e es)
    rw [head, List.cons_append, value?_brace, ← List.cons_append, ← head,
      members?_writeMembers (List.cons_ne_nil e es) reads enough]
    rfl

theorem value?_text (s : String) :
    value? (fuel + 1) depth (writeString s ++ rest) = some (.text s, rest) := by
  simp (disch := decide) only [value?, writeString_append, skipBlanks_cons,
    string?_flatMap_writeChar, Option.map_some, String.ofList_toList]

theorem value?_toDigits (closed : Closed rest) (fits : n < Number.unsignedLimit) :
    value? (fuel + 1) depth (Nat.toDigits 10 n ++ rest) = some (.number (.natural n), rest) := by
  obtain ⟨c, cs, digits, digit⟩ := exists_digit n
  have read := unsigned?_toDigits closed fits
  rw [digits, List.cons_append] at read ⊢
  rw [value?_of_isDigit digit, read]
  rfl

theorem readsBack_of_plain (plain : Plain depth d) : ReadsBack double depth d := by
  induction plain with
  | null => exact fun rest fuel closed enough => rfl
  | bool b => cases b <;> exact fun rest fuel closed enough => rfl
  | natural fits => exact fun rest fuel closed enough => value?_toDigits closed fits
  | text s => exact fun rest fuel closed enough => value?_text s
  | list plain ih =>
    intro rest fuel closed enough
    simp only [write, List.length_cons] at enough
    exact value?_list plain ih (by omega)
  | record plain ih =>
    intro rest fuel closed enough
    simp only [write, List.length_cons] at enough
    exact value?_record ih (by omega)

theorem ofJson?_json (plain : Plain 127 d) : Data.ofJson? (json double d) = some d := by
  have reads : ReadsBack double 127 d := readsBack_of_plain plain
  have read := reads [] (2 * (write double d).length) (by simp [Closed]) (by omega)
  rw [List.append_nil] at read
  simp [Data.ofJson?, json, read, skipBlanks]

example : json (fun _ => []) (.record [("a\n\u0001\"", .list [.null, .number (.natural 10)]),
    ("b", .record [])]) = "\x7b\"a\\n\\u0001\\\"\":[null,10],\"b\":\x7b\x7d\x7d" := by
  decide +kernel

end FormRules.Proofs.RoundTrip
