import FormRules.Data

/-!
Reading the fields of a record.

A record may also be given as the list of its fields in order, of which those at the end may be
left out. Keys that are no field are passed over; a field given twice is refused, also under two of
its names.
-/

namespace FormRules.Wire

/-- What a field is given, if anything; nothing comes back if it is given twice. -/
def slot? (names : List String) (entries : List (String × Data)) : Option (Option Data) :=
  match entries.filter fun entry => names.contains entry.1 with
  | [] => some none
  | [(_, d)] => some (some d)
  | _ => none

/-- What each field is given, the fields being told by their names. -/
def slots? (fields : List (List String)) : Data → Option (List (Option Data))
  | .record entries => fields.mapM fun names => slot? names entries
  | .list items =>
    if items.length ≤ fields.length then
      some (items.map some ++ List.replicate (fields.length - items.length) none)
    else none
  | _ => none

/-! ## Fields -/

def mandatory {α : Type} (read : Data → Option α) : Option Data → Option α
  | none => none
  | some d => read d

def withDefault {α : Type} (default : α) (read : Data → Option α) : Option Data → Option α
  | none => some default
  | some d => read d

/-! ## Values -/

def text? : Data → Option String
  | .text s => some s
  | _ => none

def bool? : Data → Option Bool
  | .bool b => some b
  | _ => none

def natural? : Data → Option Nat
  | .number (.natural n) => some n
  | _ => none

def double? : Data → Option Binary64
  | .number n => some n.toBinary64
  | _ => none

def nullable? {α : Type} (read : Data → Option α) : Data → Option (Option α)
  | .null => some none
  | d => (read d).map some

def list? {α : Type} (read : Data → Option α) : Data → Option (List α)
  | .list items => items.mapM read
  | _ => none

def pair? : Data → Option (String × String)
  | .list [.text a, .text b] => some (a, b)
  | _ => none

/-! ## Names -/

/-- What may stand under a name that is the only key of a record. -/
inductive Leniency where
  /-- Null. -/
  | strict
  /-- Null, or a record without entries. -/
  | lenient
deriving DecidableEq, Repr

def Leniency.admits : Leniency → Data → Bool
  | _, .null => true
  | lenient, .record [] => true
  | _, _ => false

/-- A name, alone or as the only key of a record. -/
def name? (l : Leniency) : Data → Option String
  | .text s => some s
  | .record [(s, d)] => if l.admits d then some s else none
  | _ => none

/-! ## Tags -/

structure Tagged where
  tag : String
  content : Option Data
  /-- How names in the content are read. -/
  leniency : Leniency

/-- Whether a key stands in front of all others of some keys. -/
def comesFirst (key : String) (keys : List String) (entries : List (String × Data)) : Bool :=
  (entries.map Prod.fst).find? keys.contains == some key

/--
A tag and what goes with it, under two keys or as a list of two. Content in front of its tag is
read leniently.
-/
def tagged? (tagKey contentKey : String) : Data → Option Tagged
  | .record entries => do
    let tag ← mandatory (name? .strict) (← slot? [tagKey] entries)
    let content ← slot? [contentKey] entries
    let l := if comesFirst contentKey [tagKey, contentKey] entries then .lenient else .strict
    some ⟨tag, content, l⟩
  | .list [.text tag, content] => some ⟨tag, some content, .strict⟩
  | _ => none

/-- What goes with a tag that stands alone: nothing. -/
def nothing? : Option Data → Option Unit
  | none => some ()
  | some .null => some ()
  | some _ => none

end FormRules.Wire
