import FormRules.Proofs.Entry.Edits
import Mathlib.Data.List.Basic

/-!
# Groups of a form that is filled in

Filling in a form changes what its fields hold and never which fields form a group. So the groups
of a reachable state are those of the fields, in order of declaration, and the first declared
field of a group speaks for it.
-/

namespace FormRules.Proofs.Entry
open FormValues

theorem members_addMember (v : FormValues) (m : Membership) : (v.addMember m).members =
    if ∃ n ∈ v.members, n.group = m.group ∧ n.id = m.id then v.members
    else v.members ++ [m] := by
  have there : (v.members.any fun n => n.group == m.group && n.id == m.id) = true ↔
      ∃ n ∈ v.members, n.group = m.group ∧ n.id = m.id := by
    simp
  unfold addMember
  simp only [there]
  split <;> rfl

theorem members_addMember_of_new {v : FormValues} {m : Membership}
    (new : ∀ n ∈ v.members, n.id ≠ m.id) : (v.addMember m).members = v.members ++ [m] := by
  rw [members_addMember, if_neg]
  rintro ⟨n, mem, -, same⟩
  exact new n mem same

theorem members_addMembers {v : FormValues} {fields : List Field}
    (new : ∀ f ∈ fields, ∀ n ∈ v.members, n.id ≠ f.id) (distinct : (fields.map Field.id).Nodup) :
    (fields.foldl (fun v f => v.addMember (membershipOf f)) v).members =
      v.members ++ fields.map membershipOf := by
  induction fields generalizing v with
  | nil => simp
  | cons f fields ih =>
    rw [List.forall_mem_cons] at new
    rw [List.map_cons, List.nodup_cons] at distinct
    have added : (v.addMember (membershipOf f)).members = v.members ++ [membershipOf f] :=
      members_addMember_of_new new.1
    have later : ∀ g ∈ fields, ∀ n ∈ (v.addMember (membershipOf f)).members, n.id ≠ g.id := by
      intro g mem n old
      rw [added, List.mem_append, List.mem_singleton] at old
      rcases old with old | rfl
      · exact new.2 g mem n old
      · exact fun same => distinct.1 (List.mem_map.2 ⟨g, mem, same.symm⟩)
    rw [List.foldl_cons, ih later distinct.2, added, List.append_assoc]
    rfl

theorem forFields_members {fields : List Field} (distinct : (fields.map Field.id).Nodup) :
    (forFields fields).members = fields.map membershipOf :=
  members_addMembers (fun _ _ _ mem => nomatch mem) distinct

def Groups (fields : List Field) (v : FormValues) : Prop :=
  v.members = fields.map membershipOf

theorem Reachable.groups {form : Form} {v : FormValues} (reached : Reachable form v)
    (distinct : (form.fields.map Field.id).Nodup) : Groups form.fields v := by
  obtain ⟨edits, rfl⟩ := reachable_iff.1 reached
  rw [Groups, fill_members]
  exact forFields_members distinct

theorem Groups.group_eq {fields : List Field} {v : FormValues} (groups : Groups fields v)
    (name : String) : v.snapshot.group name =
      (fields.filter fun f => f.group == name).map fun f => v.member (membershipOf f) := by
  rw [Groups] at groups
  simp only [snapshot, FormValues.group, groups, List.filter_map, List.map_map]
  rfl

theorem Groups.groupIsChecked_iff {fields : List Field} {v : FormValues}
    (groups : Groups fields v) {f : Field} (mem : f ∈ fields) :
    f.groupIsChecked v.snapshot = true ↔
      ∃ g ∈ fields, g.group = f.group ∧ ((v.snapshot.field g.id).getD {}).checked = true := by
  have fMem : f ∈ fields.filter fun g => g.group == f.group := by simp [mem]
  have any : f.groupIsChecked v.snapshot = (v.snapshot.group f.group).any GroupMember.checked := by
    rw [Field.groupIsChecked]
    cases members : v.snapshot.group f.group with
    | nil =>
      rw [groups.group_eq, List.map_eq_nil_iff] at members
      rw [members] at fMem
      cases fMem
    | cons first rest => rfl
  rw [any, groups.group_eq, List.any_map, List.any_eq_true]
  constructor
  · rintro ⟨g, gMem, checked⟩
    obtain ⟨gMem, same⟩ := List.mem_filter.1 gMem
    exact ⟨g, gMem, by simpa using same, checked⟩
  · rintro ⟨g, gMem, same, checked⟩
    exact ⟨g, List.mem_filter.2 ⟨gMem, by simpa using same⟩, checked⟩

theorem Groups.checked_eq_false {fields : List Field} {v : FormValues} (groups : Groups fields v)
    {f : Field} (mem : f ∈ fields) (unset : f.groupIsChecked v.snapshot = false) :
    ((v.snapshot.field f.id).getD {}).checked = false := by
  rw [Bool.eq_false_iff, ne_eq, groups.groupIsChecked_iff mem] at unset
  exact Bool.eq_false_iff.2 fun checked => unset ⟨f, mem, rfl, checked⟩

/-- `x` is the first declared field of the group of `f`. -/
def Leads (fields : List Field) (x f : Field) : Prop :=
  fields.find? (fun g => g.group == f.group) = some x

section Leads
variable {fields : List Field} {x f : Field}

theorem exists_leads (mem : f ∈ fields) : ∃ x, Leads fields x f := by
  cases found : fields.find? fun g => g.group == f.group with
  | none => simpa using List.find?_eq_none.1 found f mem
  | some x => exact ⟨x, found⟩

theorem Leads.mem (leads : Leads fields x f) : x ∈ fields :=
  List.mem_of_find?_eq_some leads

theorem Leads.group_eq (leads : Leads fields x f) : x.group = f.group := by
  simpa using List.find?_some leads

theorem Leads.self (leads : Leads fields x f) : Leads fields x x := by
  rw [Leads, leads.group_eq]
  exact leads

theorem Leads.eq_or_mem {before after : List Field} (leads : Leads (before ++ f :: after) x f) :
    x = f ∨ x ∈ before := by
  rw [Leads, List.find?_append] at leads
  cases found : before.find? fun g => g.group == f.group with
  | none =>
    left
    simpa [found, eq_comm] using leads
  | some y =>
    rw [found] at leads
    cases leads
    exact .inr (List.mem_of_find?_eq_some found)

theorem Leads.groupLeader_eq {v : FormValues} (leads : Leads fields x f)
    (groups : Groups fields v) : f.groupLeader v.snapshot = v.member (membershipOf x) := by
  rw [Leads, ← List.head?_filter] at leads
  rw [Field.groupLeader, groups.group_eq]
  cases members : fields.filter fun g => g.group == f.group with
  | nil => simp [members] at leads
  | cons y rest =>
    rw [members] at leads
    cases leads
    rfl

theorem Leads.groupIsChecked_eq {v : FormValues} (leads : Leads fields x f)
    (groups : Groups fields v) (mem : f ∈ fields) :
    x.groupIsChecked v.snapshot = f.groupIsChecked v.snapshot := by
  rw [Bool.eq_iff_iff, groups.groupIsChecked_iff leads.mem, groups.groupIsChecked_iff mem,
    leads.group_eq]

end Leads

end FormRules.Proofs.Entry
