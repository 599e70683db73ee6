import FormRules.Field
import FormRules.Wire.Rule

/-!
Field specifications and fields as data trees.
-/

namespace FormRules
open Wire

namespace FieldKind

def toData (k : FieldKind) : Data :=
  .text k.name

def ofData? (l : Leniency) (d : Data) : Option FieldKind := do
  ofName? (← name? l d)

end FieldKind

namespace FieldSpec

def toData (s : FieldSpec) : Data :=
  .record [("id", .text s.id), ("label", .optionalText s.label), ("kind", s.kind.toData),
    ("group", .optionalText s.group), ("rules", .text s.rules)]

def ofData? (l : Leniency) (d : Data) : Option FieldSpec := do
  match ← slots? [["id"], ["label"], ["kind"], ["group"], ["rules"]] d with
  | [id, label, kind, group, rules] =>
    some {
      id := ← mandatory text? id
      label := ← withDefault none (nullable? text?) label
      kind := ← withDefault .text (FieldKind.ofData? l) kind
      group := ← withDefault none (nullable? text?) group
      rules := ← withDefault "" text? rules }
  | _ => none

end FieldSpec

def Field.toData (f : Field) : Data :=
  .record [("id", .text f.id), ("label", .text f.label), ("kind", f.kind.toData),
    ("group", .optionalText f.declaredGroup), ("rules", .list (f.rules.map Rule.toData))]

end FormRules
