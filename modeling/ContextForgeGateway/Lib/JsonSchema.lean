import ContextForgeGateway.Lib.Serde

/-!
# JSON Schema

The part of JSON Schema with which records, maps and formatted strings are described. The properties
of an object are checked against their own schemas, all other members against `additional`, and the
properties in `required` have to be there. What a format demands of a string is a parameter.

`At path v w` says that `w` is what the members on the path lead to in `v`.
-/

namespace JsonSchema

open Serde (Value object)

inductive Schema
  /-- `true`. -/
  | any
  | string (format : String)
  | object (properties : List (String × Schema)) (required : List String) (additional : Schema)

/-- The value is valid under the schema. -/
inductive Accepts (format : String → String → Prop) : Schema → Value → Prop
  | any (v : Value) : Accepts format .any v
  | string {name s : String} : format name s → Accepts format (.string name) (.str s)
  | object {properties : List (String × Schema)} {required : List String} {additional : Schema}
      {members : List (String × Value)} :
    (∀ name ∈ required, name ∈ members.map Prod.fst) →
    (∀ m ∈ members, ∀ schema, properties.lookup m.1 = some schema → Accepts format schema m.2) →
    (∀ m ∈ members, properties.lookup m.1 = none → Accepts format additional m.2) →
    Accepts format (.object properties required additional) (object members)

theorem accepts_object {format : String → String → Prop} {properties : List (String × Schema)}
    {required : List String} {additional : Schema} {v : Value} :
    Accepts format (.object properties required additional) v ↔
      ∃ members, v = object members ∧ (∀ name ∈ required, name ∈ members.map Prod.fst) ∧
        (∀ m ∈ members, ∀ schema, properties.lookup m.1 = some schema →
          Accepts format schema m.2) ∧
        ∀ m ∈ members, properties.lookup m.1 = none → Accepts format additional m.2 := by
  constructor
  · intro h
    cases h with
    | object hrequired hproperties hadditional =>
      exact ⟨_, rfl, hrequired, hproperties, hadditional⟩
  · rintro ⟨members, rfl, hrequired, hproperties, hadditional⟩
    exact Accepts.object hrequired hproperties hadditional

/-- The schema of a record with one property, which is a map whose values have the schema `value`. -/
def Schema.mapRecord (name : String) (value : Schema) : Schema :=
  .object [(name, .object [] [] value)] [name] .any

theorem accepts_mapRecord {format : String → String → Prop} {name : String} {value : Schema}
    {v : Value} :
    Accepts format (.mapRecord name value) v ↔
      ∃ members, v = object members ∧ name ∈ members.map Prod.fst ∧
        ∀ w, (name, w) ∈ members → ∃ entries, w = object entries ∧
          ∀ e ∈ entries, Accepts format value e.2 := by
  have hmap : ∀ w, Accepts format (.object [] [] value) w ↔
      ∃ entries, w = object entries ∧ ∀ e ∈ entries, Accepts format value e.2 := by
    intro w
    rw [accepts_object]
    simp
  rw [Schema.mapRecord, accepts_object]
  constructor
  · rintro ⟨members, rfl, hrequired, hproperties, -⟩
    refine ⟨members, rfl, hrequired name (List.mem_singleton_self name), ?_⟩
    intro w hw
    exact (hmap w).1 (hproperties _ hw _ (by simp))
  · rintro ⟨members, rfl, hrequired, hproperties⟩
    refine ⟨members, rfl, List.forall_mem_singleton.2 hrequired, ?_, fun m _ _ => Accepts.any m.2⟩
    rintro ⟨other, w⟩ hw schema hschema
    by_cases hname : other = name
    · subst hname
      rw [List.lookup_cons_self] at hschema
      cases hschema
      exact (hmap w).2 (hproperties w hw)
    · have hbeq : (other == name) = false := beq_false_of_ne hname
      rw [List.lookup_cons, hbeq] at hschema
      cases hschema

theorem accepts_mapRecord_of_mem {format : String → String → Prop} {name : String} {value : Schema}
    {members entries : List (String × Value)} (hnodup : (members.map Prod.fst).Nodup)
    (hmem : (name, object entries) ∈ members)
    (h : ∀ e ∈ entries, Accepts format value e.2) :
    Accepts format (.mapRecord name value) (object members) := by
  refine accepts_mapRecord.2 ⟨members, rfl, List.mem_map_of_mem hmem, ?_⟩
  intro w hw
  have hsame : some w = some (object entries) :=
    ((Serde.member_eq_some hnodup).2 hw).symm.trans ((Serde.member_eq_some hnodup).2 hmem)
  exact ⟨entries, Option.some.inj hsame, h⟩

/-- The members on the path lead from `v` to `w`. -/
def At : List String → Value → Value → Prop
  | [], v, w => v = w
  | name :: path, v, w =>
    ∃ members member, v = object members ∧ (name, member) ∈ members ∧ At path member w

theorem at_object {name : String} {path : List String} {members : List (String × Value)}
    {w : Value} :
    At (name :: path) (object members) w ↔ ∃ v, (name, v) ∈ members ∧ At path v w := by
  constructor
  · rintro ⟨members', v, hmembers, hmem, hat⟩
    cases Serde.object_injective hmembers
    exact ⟨v, hmem, hat⟩
  · rintro ⟨v, hmem, hat⟩
    exact ⟨members, v, rfl, hmem, hat⟩

theorem at_append {path path' : List String} {v w : Value} :
    At (path ++ path') v w ↔ ∃ u, At path v u ∧ At path' u w := by
  induction path generalizing v with
  | nil =>
    constructor
    · intro h
      exact ⟨v, rfl, h⟩
    · rintro ⟨u, hu, h⟩
      cases hu
      exact h
  | cons name path ih =>
    constructor
    · rintro ⟨members, member, hv, hmem, hat⟩
      obtain ⟨u, hu, hw⟩ := ih.1 hat
      exact ⟨u, ⟨members, member, hv, hmem, hu⟩, hw⟩
    · rintro ⟨u, ⟨members, member, hv, hmem, hu⟩, hw⟩
      exact ⟨members, member, hv, hmem, ih.2 ⟨u, hu, hw⟩⟩

/-- A path through two maps, and on from there. -/
theorem at_cons_cons {name key : String} {path : List String} {v w : Value} :
    At (name :: key :: path) v w ↔ ∃ u, At [name, key] v u ∧ At path u w := by
  have happend : At ([name, key] ++ path) v w ↔ _ := at_append
  exact happend

theorem isJson_of_at {path : List String} {v w : Value} (hv : Serde.IsJson v)
    (h : At path v w) : Serde.IsJson w := by
  induction path generalizing v with
  | nil =>
    cases h
    exact hv
  | cons name path ih =>
    obtain ⟨members, member, rfl, hmem, hat⟩ := h
    exact ih ((Serde.isJson_object.1 hv).2 _ hmem) hat

end JsonSchema
