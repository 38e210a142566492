import Flowgraph.Json.Value
import Mathlib.Data.List.Forall2
import Mathlib.Data.List.Nodup

/-!
# Records

A record is written as an object that has each of its fields at most once, in any order and among
other members, or as an array of its first fields. `Record` says so for all fields at once,
`FieldOf` for one field of a value that need not be a record otherwise. Values are `Alike` that have
the same fields, as an array and its object have, or two objects that differ in the order of their
members.
-/

namespace Flowgraph.Json

/-- The value has these fields, in the order of their names; `none` is a field that is not given. -/
inductive Record (names : List String) : Json → List (Option Json) → Prop where
  | object {members fields}
      (each : names.Forall₂ (fun name field => membersNamed name members = field.toList) fields) :
      Record names (.object members) fields
  | array {items missing} (size : items.length + missing = names.length) :
      Record names (.array items) (items.map some ++ List.replicate missing none)

inductive FieldOf (names : List String) (name : String) : Json → Json → Prop where
  | named {members v} (known : name ∈ names) (member : (name, v) ∈ members) :
      FieldOf names name (.object members) v
  | placed {items v} (place : (name, v) ∈ names.zip items) : FieldOf names name (.array items) v

def IsRecord (names : List String) (value : Json) : Prop := ∃ fields, Record names value fields

/-- The values have the same fields of the given names, and both are records or neither is. -/
structure Alike (names : List String) (value other : Json) : Prop where
  record : IsRecord names value ↔ IsRecord names other
  fields : ∀ name v, FieldOf names name value v ↔ FieldOf names name other v

inductive IsVariant (name : String) : Json → Prop where
  | text : IsVariant name (.text name)
  | object : IsVariant name (.object [(name, .null)])

variable {α β : Type} {names : List String} {name : String} {value v : Json}
  {members : List (String × Json)} {fields : List (Option Json)}

theorem mapM_eq_some_iff {f : α → Option β} {as : List α} {bs : List β} :
    as.mapM f = some bs ↔ as.Forall₂ (fun a b => f a = some b) bs := by
  induction as generalizing bs with
  | nil => simp [eq_comm]
  | cons a as ih =>
      rw [List.mapM_cons, List.forall₂_cons_left_iff]
      simp only [Option.bind_eq_bind, Option.bind_eq_some_iff, Option.pure_def, Option.some.injEq, ih]
      constructor
      · rintro ⟨b, first, bs, others, rfl⟩
        exact ⟨b, bs, first, others, rfl⟩
      · rintro ⟨b, bs, first, others, rfl⟩
        exact ⟨b, first, bs, others, rfl⟩

theorem exists_of_forall₂ {R : α → β → Prop} {as : List α} {bs : List β} (each : as.Forall₂ R bs) :
    ∀ a ∈ as, ∃ b, R a b :=
  ((List.forall₂_and_left as bs).1 (each.imp fun _ b related => ⟨⟨b, related⟩, related⟩)).1

theorem exists_forall₂_iff {R : α → β → Prop} {as : List α} :
    (∃ bs, as.Forall₂ R bs) ↔ ∀ a ∈ as, ∃ b, R a b := by
  refine ⟨fun ⟨bs, each⟩ => exists_of_forall₂ each, fun each => ?_⟩
  induction as with
  | nil => exact ⟨[], .nil⟩
  | cons a as ih =>
      obtain ⟨b, first⟩ := each a List.mem_cons_self
      obtain ⟨bs, others⟩ := ih fun a member => each a (List.mem_cons_of_mem _ member)
      exact ⟨b :: bs, .cons first others⟩

theorem mem_membersNamed : v ∈ membersNamed name members ↔ (name, v) ∈ members := by
  simp [membersNamed]

theorem lookup_eq_some_iff :
    lookup names members = some fields ↔
      names.Forall₂ (fun name field => membersNamed name members = field.toList) fields := by
  rw [lookup, mapM_eq_some_iff]
  constructor
  all_goals
    refine fun each => each.imp fun name field => ?_
    rcases membersNamed name members with _ | ⟨v, _ | ⟨w, others⟩⟩ <;> cases field <;> simp

theorem fields?_eq_some_iff : fields? names value = some fields ↔ Record names value fields := by
  constructor
  · intro read
    unfold fields? at read
    split at read
    · exact .object (lookup_eq_some_iff.1 read)
    · split at read
      · next items short =>
          obtain rfl := Option.some.inj read
          exact .array (by omega)
      · cases read
    · cases read
  · rintro (each | @⟨items, missing, size⟩)
    · exact lookup_eq_some_iff.2 each
    · have count : names.length - items.length = missing := by omega
      rw [fields?, if_pos (by omega), count]

theorem variant?_eq_some_iff : value.variant? = some name ↔ IsVariant name value := by
  constructor
  · intro read
    unfold variant? at read
    split at read
    · obtain rfl := Option.some.inj read
      exact .text
    · obtain rfl := Option.some.inj read
      exact .object
    · cases read
  · rintro (_ | _) <;> rfl

/-- A variant is read by its name. -/
theorem bind_variant?_eq_some_iff {ofName? : String → Option α} {nameOf : α → String}
    (named : ∀ name a, ofName? name = some a ↔ name = nameOf a) {a : α} :
    value.variant?.bind ofName? = some a ↔ IsVariant (nameOf a) value := by
  simp only [Option.bind_eq_some_iff, variant?_eq_some_iff, named]
  exact ⟨fun ⟨name, isVariant, same⟩ => same ▸ isVariant, fun isVariant => ⟨_, isVariant, rfl⟩⟩

theorem text?_eq_some_iff {text : String} : value.text? = some text ↔ value = .text text := by
  cases value <;> simp [text?]

theorem array?_eq_some_iff {items : List Json} : value.array? = some items ↔ value = .array items := by
  cases value <;> simp [array?]

theorem nat?_eq_some_iff {bound n : Nat} : value.nat? bound = some n ↔ value = .nat n ∧ n ≤ bound := by
  cases value with
  | int m =>
      simp only [nat?, nat, Json.int.injEq, Option.ite_none_right_eq_some, Option.some.injEq]
      omega
  | _ => simp [nat?, nat]

/-- Only the items of an array are fields that are given. -/
theorem mem_zip_items {items : List Json} {missing : Nat} :
    (name, some v) ∈ names.zip (items.map some ++ List.replicate missing none) ↔
      (name, v) ∈ names.zip items := by
  induction names generalizing items with
  | nil => simp
  | cons first names ih =>
      cases items with
      | nil =>
          refine iff_of_false (fun listed => ?_) List.not_mem_nil
          have absent := List.eq_of_mem_replicate (List.of_mem_zip listed).2
          cases absent
      | cons item items => simp [ih]

theorem Record.mem_zip (record : Record names value fields) (field : FieldOf names name value v) :
    (name, some v) ∈ names.zip fields := by
  cases record with
  | @object members fields each =>
      cases field with
      | named known member =>
          have given : v ∈ membersNamed name members := mem_membersNamed.2 member
          induction each with
          | nil => cases known
          | @cons first field names fields found others ih =>
              rw [List.zip_cons_cons, List.mem_cons]
              rcases List.mem_cons.1 known with rfl | known
              · rw [found, Option.mem_toList] at given
                exact .inl (by rw [given])
              · exact .inr (ih known)
  | array size =>
      cases field with
      | placed place => exact mem_zip_items.2 place

theorem Record.length_eq (record : Record names value fields) : fields.length = names.length := by
  cases record with
  | object each => exact each.length_eq.symm
  | array size => simpa using size

/-- What stands for a name among the fields of a record is the field of that name. -/
theorem Record.fieldOf_iff (record : Record names value fields) (distinct : names.Nodup)
    {field : Option Json} (listed : (name, field) ∈ names.zip fields) :
    FieldOf names name value v ↔ field = some v := by
  constructor
  · intro fieldOf
    obtain ⟨i, bound, here⟩ := List.getElem_of_mem listed
    obtain ⟨j, bound', there⟩ := List.getElem_of_mem (record.mem_zip fieldOf)
    rw [List.getElem_zip, Prod.mk.injEq] at here there
    -- No name stands twice in the list, so both fields stand at one index.
    obtain rfl : i = j := (List.Nodup.getElem_inj_iff distinct).1 (here.1.trans there.1.symm)
    exact here.2.symm.trans there.2
  · rintro rfl
    cases record with
    | object each =>
        have found := (List.forall₂_iff_zip.1 each).2 listed
        refine .named (List.of_mem_zip listed).1 (mem_membersNamed.1 ?_)
        rw [found]
        exact List.mem_singleton_self v
    | array size => exact .placed (mem_zip_items.1 listed)

theorem IsRecord.field_unique {w : Json} (record : IsRecord names value) (distinct : names.Nodup)
    (field : FieldOf names name value v) (also : FieldOf names name value w) : v = w := by
  obtain ⟨fields, record⟩ := record
  exact Option.some.inj ((record.fieldOf_iff distinct (record.mem_zip field)).1 also)

/-! ## Values that have the same fields -/

theorem Alike.symm {other : Json} (alike : Alike names value other) : Alike names other value :=
  ⟨alike.record.symm, fun name v => (alike.fields name v).symm⟩

theorem length_membersNamed :
    (membersNamed name members).length = (members.map Prod.fst).count name := by
  rw [membersNamed, List.length_map, List.count, List.countP_map, List.countP_eq_length_filter]
  rfl

/-- An object is a record if it has each field at most once. -/
theorem isRecord_object_iff :
    IsRecord names (.object members) ↔ ∀ name ∈ names, (members.map Prod.fst).count name ≤ 1 := by
  have read : IsRecord names (.object members) ↔
      ∃ fields : List (Option Json),
        names.Forall₂ (fun name field => membersNamed name members = field.toList) fields :=
    ⟨fun ⟨fields, .object each⟩ => ⟨fields, each⟩, fun ⟨fields, each⟩ => ⟨fields, .object each⟩⟩
  rw [read, exists_forall₂_iff]
  refine forall₂_congr fun name known => ?_
  rw [← length_membersNamed]
  rcases membersNamed name members with _ | ⟨v, _ | ⟨w, others⟩⟩ <;> simp [Option.exists]

/-- An array is a record if it has no more items than there are fields. -/
theorem isRecord_array_iff {items : List Json} :
    IsRecord names (.array items) ↔ items.length ≤ names.length := by
  constructor
  · rintro ⟨fields, ⟨size⟩⟩
    omega
  · intro short
    exact ⟨_, .array (Nat.add_sub_cancel' short)⟩

theorem fieldOf_object_iff :
    FieldOf names name (.object members) v ↔ name ∈ names ∧ (name, v) ∈ members :=
  ⟨fun | .named known member => ⟨known, member⟩, fun ⟨known, member⟩ => .named known member⟩

theorem alike_of_perm {others : List (String × Json)} (same : members.Perm others) :
    Alike names (.object members) (.object others) := by
  constructor
  · simp only [isRecord_object_iff, (same.map Prod.fst).count_eq]
  · simp only [fieldOf_object_iff, same.mem_iff, implies_true]

theorem alike_of_unknown {before after : List (String × Json)} (unknown : name ∉ names) :
    Alike names (.object (before ++ (name, v) :: after)) (.object (before ++ after)) := by
  have other {known : String} (member : known ∈ names) : name ≠ known := by
    rintro rfl
    exact unknown member
  constructor
  · simp only [isRecord_object_iff]
    refine forall₂_congr fun known member => ?_
    rw [List.map_append, List.map_cons, List.count_append, List.count_cons_of_ne (other member),
      ← List.count_append, ← List.map_append]
  · intro known w
    simp only [fieldOf_object_iff]
    refine and_congr_right fun member => ?_
    simp [(other member).symm]

/-- An array of the first fields and the object that has these fields. -/
theorem alike_array {items : List Json} (distinct : names.Nodup) (short : items.length ≤ names.length) :
    Alike names (.array items) (.object (names.zip items)) := by
  constructor
  · have firsts : (names.zip items).map Prod.fst = names.take items.length := by
      rw [List.zip_eq_zip_take_min, Nat.min_eq_right short, List.take_length,
        List.map_fst_zip (List.length_take_le _ _)]
    have once : (names.take items.length).Nodup := distinct.sublist (List.take_sublist _ _)
    simp only [isRecord_array_iff, isRecord_object_iff, firsts]
    exact iff_of_true short fun name _ => List.nodup_iff_count_le_one.1 once name
  · intro name v
    rw [fieldOf_object_iff]
    exact ⟨fun | .placed place => ⟨(List.of_mem_zip place).1, place⟩, fun ⟨_, place⟩ => .placed place⟩

end Flowgraph.Json
