import FormRules.Snapshot
import FormRules.Wire.Field

/-!
Field states, recorded inputs and form values as data trees.
-/

namespace FormRules
open Wire

namespace FieldState

def toData (s : FieldState) : Data :=
  .record [("value", .text s.value), ("checked", .bool s.checked)]

def ofData? (d : Data) : Option FieldState := do
  match ← slots? [["value"], ["checked"]] d with
  | [value, checked] =>
    some {
      value := ← withDefault "" text? value
      checked := ← withDefault false bool? checked }
  | _ => none

end FieldState

namespace FieldInput

def toData : FieldInput → Data
  | value s => .text s
  | state s => s.toData

def ofData? : Data → Option FieldInput
  | .text s => some (.value s)
  | d => (FieldState.ofData? d).map .state

end FieldInput

/-- The entries of a record, each read by itself. -/
def Wire.entries? {α : Type} (read : Data → Option α) : Data → Option (List (String × α))
  | .record entries => entries.mapM fun (key, d) => (read d).map (key, ·)
  | _ => none

/-- The entries whose key does not occur again after them. -/
def Wire.lastOfEach {α : Type} : List (String × α) → List (String × α)
  | [] => []
  | e :: es => if es.any (·.1 == e.1) then lastOfEach es else e :: lastOfEach es

theorem Wire.lastOfEach_sublist {α : Type} {es : List (String × α)} :
    (lastOfEach es).Sublist es := by
  induction es with
  | nil => exact List.Sublist.refl _
  | cons e es ih =>
    unfold lastOfEach
    split
    · exact ih.cons e
    · exact ih.cons_cons e

theorem Wire.nodup_lastOfEach {α : Type} {es : List (String × α)} :
    ((lastOfEach es).map Prod.fst).Nodup := by
  induction es with
  | nil => exact List.nodup_nil
  | cons e es ih =>
    unfold lastOfEach
    split
    · exact ih
    · rename_i last
      rw [List.map_cons, List.nodup_cons]
      refine ⟨fun mem => last ?_, ih⟩
      obtain ⟨e', mem', same⟩ := List.mem_map.1 ((lastOfEach_sublist.map Prod.fst).subset mem)
      exact List.any_eq_true.2 ⟨e', mem', beq_iff_eq.2 same⟩

/-- Recorded inputs by field id, the last one for each. -/
def FieldInput.listOfData? (d : Data) : Option (List (String × FieldInput)) :=
  (entries? FieldInput.ofData? d).map lastOfEach

namespace GroupMember

def toData (m : GroupMember) : Data :=
  .record [("id", .text m.id), ("label", .text m.label), ("kind", m.kind.toData),
    ("checked", .bool m.checked)]

def ofData? (d : Data) : Option GroupMember := do
  match ← slots? [["id"], ["label"], ["kind"], ["checked"]] d with
  | [id, label, kind, checked] =>
    some {
      id := ← mandatory text? id
      label := ← mandatory text? label
      kind := ← mandatory (FieldKind.ofData? .strict) kind
      checked := ← mandatory bool? checked }
  | _ => none

end GroupMember

namespace Membership

def toData (m : Membership) : Data :=
  .record [("group", .text m.group), ("id", .text m.id), ("label", .text m.label),
    ("kind", m.kind.toData)]

def ofData? (d : Data) : Option Membership := do
  match ← slots? [["group"], ["id"], ["label"], ["kind"]] d with
  | [group, id, label, kind] =>
    some {
      group := ← mandatory text? group
      id := ← mandatory text? id
      label := ← mandatory text? label
      kind := ← mandatory (FieldKind.ofData? .strict) kind }
  | _ => none

end Membership

namespace FormValues

/-- The states by field id, in the order of the ids. -/
def statesData (v : FormValues) : Data :=
  .record (v.states.toList.map fun (id, s) => (id, s.toData))

def toData (v : FormValues) : Data :=
  .record [("states", v.statesData), ("groups", .list (v.members.map Membership.toData))]

def statesOfData? (d : Data) : Option (Std.ExtTreeMap String FieldState compare) := do
  let states ← entries? FieldState.ofData? d
  some (states.foldl (fun m (id, s) => m.insert id s) ∅)

def ofData? (d : Data) : Option FormValues := do
  match ← slots? [["states"], ["groups"]] d with
  | [states, groups] =>
    some {
      states := ← withDefault ∅ statesOfData? states
      members := ← withDefault [] (list? Membership.ofData?) groups }
  | _ => none

end FormValues

end FormRules
