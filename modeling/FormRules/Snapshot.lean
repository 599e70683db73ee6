import Std.Data.ExtTreeMap
import FormRules.Field

/-!
The state of a form: what fields hold, and which fields form a group.

`Snapshot` is what evaluation sees. `FormValues` is a form state that can be changed.
-/

namespace FormRules

structure FieldState where
  value : String := ""
  checked : Bool := false
deriving DecidableEq, Repr

/-- A recorded input: a value alone, or a whole state. -/
inductive FieldInput where
  | value (s : String)
  | state (s : FieldState)
deriving DecidableEq, Repr

structure GroupMember where
  id : String
  label : String
  kind : FieldKind
  checked : Bool
deriving DecidableEq, Repr

structure Snapshot where
  field : String → Option FieldState
  /-- The members of a group, in the order of the form. -/
  group : String → List GroupMember

structure Membership where
  group : String
  id : String
  label : String
  kind : FieldKind
deriving DecidableEq, Repr

structure FormValues where
  states : Std.ExtTreeMap String FieldState compare := ∅
  members : List Membership := []

namespace FormValues

def state? (v : FormValues) (id : String) : Option FieldState :=
  v.states[id]?

def set (v : FormValues) (id : String) (state : FieldState) : FormValues :=
  { v with states := v.states.insert id state }

/-- Changes the state of a field; a field without a state has an empty one. -/
def update (v : FormValues) (id : String) (f : FieldState → FieldState) : FormValues :=
  v.set id (f ((v.state? id).getD {}))

def setValue (v : FormValues) (id value : String) : FormValues :=
  v.update id fun s => { s with value }

def setChecked (v : FormValues) (id : String) (checked : Bool) : FormValues :=
  v.update id fun s => { s with checked }

def applyInput (v : FormValues) (id : String) : FieldInput → FormValues
  | .value s => v.setValue id s
  | .state s => v.set id s

def apply (v : FormValues) (inputs : List (String × FieldInput)) : FormValues :=
  inputs.foldl (fun v (id, input) => v.applyInput id input) v

/-- Adds a field to the end of a group that does not have it yet. -/
def addMember (v : FormValues) (m : Membership) : FormValues :=
  if v.members.any fun n => n.group == m.group && n.id == m.id then v
  else { v with members := v.members ++ [m] }

def member (v : FormValues) (m : Membership) : GroupMember where
  id := m.id
  label := m.label
  kind := m.kind
  checked := ((v.state? m.id).getD {}).checked

def group (v : FormValues) (name : String) : List GroupMember :=
  (v.members.filter fun m => m.group == name).map v.member

def snapshot (v : FormValues) : Snapshot where
  field := v.state?
  group := v.group

def membershipOf (f : Field) : Membership where
  group := f.group
  id := f.id
  label := f.label
  kind := f.kind

def forFields (fields : List Field) : FormValues :=
  fields.foldl (fun v f => v.addMember (membershipOf f)) {}

end FormValues

end FormRules
