import FormRules.Proofs.RoundTrip.JsonText
import FormRules.Wire.Record
import Mathlib.Data.List.Forall2
import Mathlib.Data.List.Perm.Basic

/-!
# Records in any order

Trees that differ only in the order of the entries of their records. Readers are shown to read all
of them as they read one.
-/

namespace FormRules.Proofs.RoundTrip
open Wire List

mutual

/-- The second tree is the first with the entries of some records in another order. -/
inductive Reordered : Data → Data → Prop where
  | refl (d) : Reordered d d
  | list {xs ys} (items : Forall₂ Reordered xs ys) : Reordered (.list xs) (.list ys)
  | record {es between es'} (values : Forall₂ SameEntry es between) (perm : between.Perm es') :
      Reordered (.record es) (.record es')

inductive SameEntry : String × Data → String × Data → Prop where
  | intro (key) {d d'} (value : Reordered d d') : SameEntry (key, d) (key, d')

end

variable {α β : Type} {d d' : Data} {xs ys : List Data} {es es' between : List (String × Data)}
  {names : List String} {s : Option Data}

theorem sameEntry_refl (es : List (String × Data)) : Forall₂ SameEntry es es :=
  forall₂_same.2 fun (key, d) _ => .intro key (.refl d)

theorem Reordered.list_iff : Reordered (.list xs) d ↔
    ∃ ys, d = .list ys ∧ Forall₂ Reordered xs ys := by
  constructor
  · intro same
    cases same with
    | refl => exact ⟨xs, rfl, forall₂_same.2 fun x _ => .refl x⟩
    | list items => exact ⟨_, rfl, items⟩
  · rintro ⟨ys, rfl, items⟩
    exact .list items

theorem Reordered.record_iff : Reordered (.record es) d ↔
    ∃ between es', d = .record es' ∧ Forall₂ SameEntry es between ∧ between.Perm es' := by
  constructor
  · intro same
    cases same with
    | refl => exact ⟨es, es, rfl, sameEntry_refl es, .refl es⟩
    | record values perm => exact ⟨_, _, rfl, values, perm⟩
  · rintro ⟨between, es', rfl, values, perm⟩
    exact .record values perm

theorem exists_of_forall₂ {R : α → β → Prop} {l : List α} {l' : List β} {b : β}
    (related : Forall₂ R l l') (mem : b ∈ l') : ∃ a ∈ l, R a b := by
  induction related with
  | nil => cases mem
  | @cons a b' l l' first _ ih =>
    rcases mem_cons.1 mem with rfl | mem
    · exact ⟨a, mem_cons_self, first⟩
    · obtain ⟨a, mem, rest⟩ := ih mem
      exact ⟨a, mem_cons_of_mem _ mem, rest⟩

theorem Plain.reordered {depth : Nat} (plain : Plain depth d) (same : Reordered d d') :
    Plain depth d' := by
  induction plain generalizing d' with
  | list plain ih =>
    obtain ⟨ys, rfl, items⟩ := Reordered.list_iff.1 same
    refine .list fun y mem => ?_
    obtain ⟨x, mem, same⟩ := exists_of_forall₂ items mem
    exact ih x mem same
  | record plain ih =>
    obtain ⟨between, es', rfl, values, perm⟩ := Reordered.record_iff.1 same
    refine .record fun e mem => ?_
    obtain ⟨e', given, same⟩ := exists_of_forall₂ values (perm.mem_iff.2 mem)
    cases same with
    | intro key same => exact ih _ given same
  | _ =>
    cases same
    constructor <;> assumption

/-! ## Fields -/

theorem slot?_perm (perm : es.Perm es') : slot? names es = slot? names es' := by
  have kept := perm.filter fun e => names.contains e.1
  unfold slot?
  generalize es.filter (fun e => names.contains e.1) = l at kept
  generalize es'.filter (fun e => names.contains e.1) = l' at kept
  match l, l', kept with
  | [], l', kept => rw [kept.nil_eq]
  | [e], l', kept => rw [singleton_perm.1 kept]
  -- A field given twice is given twice in any order.
  | e₁ :: e₂ :: l, l', kept =>
    match l', kept.length_eq with
    | _ :: _ :: _, _ => rfl

theorem slot?_of_values (values : Forall₂ SameEntry es between) (slot : slot? names es = some s) :
    ∃ s', slot? names between = some s' ∧ Option.Rel Reordered s s' := by
  have kept : Forall₂ SameEntry (es.filter fun e => names.contains e.1)
      (between.filter fun e => names.contains e.1) :=
    rel_filter (fun e e' same => by cases same; rfl) values
  unfold slot? at slot ⊢
  generalize es.filter (fun e => names.contains e.1) = l at kept slot
  generalize between.filter (fun e => names.contains e.1) = l' at kept
  match l, l', kept, slot with
  | [], [], .nil, rfl => exact ⟨none, rfl, .none⟩
  | [_], [_], .cons (.intro _ value) .nil, rfl => exact ⟨_, rfl, .some value⟩

theorem slot?_of_reordered (names : List String) (same : Reordered (.record es) (.record es'))
    (slot : slot? names es = some s) :
    ∃ s', slot? names es' = some s' ∧ Option.Rel Reordered s s' := by
  obtain ⟨between, es', shape, values, perm⟩ := Reordered.record_iff.1 same
  cases shape
  rw [← slot?_perm perm]
  exact slot?_of_values values slot

theorem mapM_eq_some_iff {f : α → Option β} {l : List α} {l' : List β} :
    l.mapM f = some l' ↔ Forall₂ (fun a b => f a = some b) l l' := by
  induction l generalizing l' with
  | nil => simp [eq_comm]
  | cons a l ih =>
    simp only [mapM_cons, Option.bind_eq_bind, Option.bind_eq_some_iff, Option.pure_def,
      Option.some.injEq, forall₂_cons_left_iff, ← ih]
    constructor
    · rintro ⟨b, first, l', others, rfl⟩
      exact ⟨b, l', first, others, rfl⟩
    · rintro ⟨b, l', first, others, rfl⟩
      exact ⟨b, first, l', others, rfl⟩

theorem slots?_of_reordered (fields : List (List String)) {slots : List (Option Data)}
    (same : Reordered (.record es) d) (given : slots? fields (.record es) = some slots) :
    ∃ slots', slots? fields d = some slots' ∧ Forall₂ (Option.Rel Reordered) slots slots' := by
  obtain ⟨between, es', rfl, -, -⟩ := Reordered.record_iff.1 same
  simp only [slots?, mapM_eq_some_iff] at given ⊢
  induction given with
  | nil => exact ⟨[], .nil, .nil⟩
  | cons slot _ ih =>
    obtain ⟨s', slot, first⟩ := slot?_of_reordered _ same slot
    obtain ⟨slots', given, others⟩ := ih
    exact ⟨s' :: slots', .cons slot given, .cons first others⟩

theorem tagged?_of_reordered (tagKey contentKey : String) {tag : String} {content : Option Data}
    (same : Reordered (.record es) d) (tagged : slot? [tagKey] es = some (some (.text tag)))
    (given : slot? [contentKey] es = some content) :
    ∃ content' l, tagged? tagKey contentKey d = some ⟨tag, content', l⟩ ∧
      Option.Rel Reordered content content' := by
  obtain ⟨between, es', rfl, -, -⟩ := Reordered.record_iff.1 same
  obtain ⟨_, tagged, ⟨⟨⟩⟩⟩ := slot?_of_reordered [tagKey] same tagged
  obtain ⟨content', given, related⟩ := slot?_of_reordered [contentKey] same given
  refine ⟨content', if comesFirst contentKey [tagKey, contentKey] es' then .lenient else .strict,
    ?_, related⟩
  simp only [tagged?, tagged, given, mandatory, name?, Option.bind_eq_bind, Option.bind_some]

/-! ## Readers -/

def Reads (read : Data → Option α) (d : Data) (x : α) : Prop :=
  ∀ d', Reordered d d' → read d' = some x

variable {read : Data → Option α} {x default : α}

theorem Reads.mandatory (reads : Reads read d x) (same : Option.Rel Reordered (some d) s) :
    mandatory read s = some x := by
  cases same with
  | some same => exact reads _ same

theorem Reads.withDefault (reads : Reads read d x) (same : Option.Rel Reordered (some d) s) :
    withDefault default read s = some x := by
  cases same with
  | some same => exact reads _ same

theorem reads_text (t : String) : Reads text? (.text t) t := by
  rintro _ ⟨⟩
  rfl

theorem reads_bool (b : Bool) : Reads bool? (.bool b) b := by
  rintro _ ⟨⟩
  rfl

theorem reads_natural (n : Nat) : Reads natural? (.number (.natural n)) n := by
  rintro _ ⟨⟩
  rfl

theorem reads_name {l : Leniency} (t : String) : Reads (name? l) (.text t) t := by
  rintro _ ⟨⟩
  rfl

theorem reads_optionalText (t : Option String) :
    Reads (nullable? text?) (Data.optionalText t) t := by
  cases t <;> rintro _ ⟨⟩ <;> rfl

theorem reads_pair (first second : String) :
    Reads pair? (Data.textList [first, second]) (first, second) := by
  intro d same
  obtain ⟨_, rfl, items⟩ := Reordered.list_iff.1 same
  obtain _ | ⟨⟨⟩, _ | ⟨⟨⟩, ⟨⟩⟩⟩ := items
  rfl

theorem reads_list {write : α → Data} {values : List α}
    (reads : ∀ x ∈ values, Reads read (write x) x) :
    Reads (list? read) (.list (values.map write)) values := by
  intro d same
  obtain ⟨ys, rfl, items⟩ := Reordered.list_iff.1 same
  rw [list?, mapM_eq_some_iff]
  have items := (forall₂_and_left _ _).2 ⟨reads, forall₂_map_left_iff.1 items⟩
  exact (items.imp fun x y ⟨reads, same⟩ => reads y same).flip

theorem reads_textList (items : List String) : Reads (list? text?) (Data.textList items) items :=
  reads_list fun t _ => reads_text t

end FormRules.Proofs.RoundTrip
