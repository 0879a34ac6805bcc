import GraphQuery.Proofs.Binary.Exact
import GraphQuery.Value.Json

namespace GraphQuery

/-- A number is finite in single precision exactly if it is in double precision. -/
theorem Binary.isFinite_widen (x : Single) : x.widen.isFinite = x.isFinite := by
  rw [Bool.eq_iff_iff]
  exact ⟨isFinite_of_isFinite_convert, fun hfinite => (withinRange_widen hfinite).1⟩

namespace JsonReal

theorem ofDouble?_val (x : JsonReal) : ofDouble? x.val = some x :=
  dif_pos x.isFinite

theorem ofDouble?_eq_none_iff {x : Double} : ofDouble? x = none ↔ x.isFinite = false := by
  unfold ofDouble?
  split <;> simp_all

end JsonReal

namespace Value

mutual

/-- A document is given back by the value that is made of it. -/
theorem toJson?_ofJson : ∀ json : Json, (ofJson json).toJson? = some json
  | .null | .bool _ | .string _ => rfl
  | .integer n => by
    rw [ofJson]
    split <;> rfl
  | .real x => by
    rw [ofJson, toJson?, JsonReal.ofDouble?_val, Option.map_some]
  | .array items => by
    rw [ofJson, toJson?, toJsonItems?_ofJsonItems items, Option.map_some]
  | .object fields => by
    rw [ofJson, toJson?, toJsonFields?_ofJsonFields fields, Option.map_some]

theorem toJsonItems?_ofJsonItems : ∀ items : List Json,
    toJsonItems? (ofJsonItems items) = some items
  | [] => rfl
  | item :: items => by
    rw [ofJsonItems, toJsonItems?, toJson?_ofJson item, toJsonItems?_ofJsonItems items]
    rfl

theorem toJsonFields?_ofJsonFields : ∀ fields : List (String × Json),
    toJsonFields? (ofJsonFields fields) = some fields
  | [] => rfl
  | (name, field) :: fields => by
    rw [ofJsonFields, toJsonFields?, toJson?_ofJson field, toJsonFields?_ofJsonFields fields]
    rfl

end

/-- A value occurs in another one: it is that value itself, or it occurs in an item of a list, in an
    entry of a map, or in a property of a node or a relationship. -/
inductive OccursIn (inner : Value) : Value → Prop
  | self : OccursIn inner inner
  | item {v part : Value} {items : List Value} (hitems : v.asList? = some items)
      (hmem : part ∈ items) (hinner : OccursIn inner part) : OccursIn inner v
  | field {v part : Value} {fields : Fields Value} {name : String}
      (hfields : v.asFields? = some fields) (hmem : (name, part) ∈ fields)
      (hinner : OccursIn inner part) : OccursIn inner v

/-- Whether a value is a floating-point number that is infinite or not a number. -/
def isNonFinite : Value → Bool
  | .float x => !x.isFinite
  | .double x => !x.isFinite
  | _ => false

/-- Whether such a number occurs in a value. -/
def HoldsNonFinite (v : Value) : Prop :=
  ∃ number, OccursIn number v ∧ number.isNonFinite = true

theorem holdsNonFinite_iff {v : Value} :
    v.HoldsNonFinite ↔ v.isNonFinite = true ∨
      (∃ items, v.asList? = some items ∧ ∃ part ∈ items, part.HoldsNonFinite) ∨
      ∃ fields, v.asFields? = some fields ∧ ∃ field ∈ fields, field.2.HoldsNonFinite := by
  constructor
  · rintro ⟨number, hoccurs, hnumber⟩
    cases hoccurs with
    | self => exact .inl hnumber
    | item hitems hmem hinner =>
      exact .inr (.inl ⟨_, hitems, _, hmem, number, hinner, hnumber⟩)
    | field hfields hmem hinner =>
      exact .inr (.inr ⟨_, hfields, _, hmem, number, hinner, hnumber⟩)
  · rintro (hnumber | ⟨items, hitems, part, hmem, number, hinner, hnumber⟩ |
      ⟨fields, hfields, ⟨name, part⟩, hmem, number, hinner, hnumber⟩)
    · exact ⟨v, .self, hnumber⟩
    · exact ⟨number, .item hitems hmem hinner, hnumber⟩
    · exact ⟨number, .field hfields hmem hinner, hnumber⟩

mutual

/-- Only numbers that are not finite keep a value from having a JSON form. -/
theorem toJson?_eq_none_iff : ∀ v : Value, v.toJson? = none ↔ v.HoldsNonFinite
  | .null | .bool _ | .int _ | .string _ | .uuid _ | .timestamp _ | .date _ | .internalId _ => by
    rw [holdsNonFinite_iff]
    simp [toJson?, isNonFinite, asList?, asFields?]
  | .float x => by
    rw [holdsNonFinite_iff, toJson?, Option.map_eq_none_iff, JsonReal.ofDouble?_eq_none_iff,
      Binary.isFinite_widen]
    simp [isNonFinite, asList?, asFields?]
  | .double x => by
    rw [holdsNonFinite_iff, toJson?, Option.map_eq_none_iff, JsonReal.ofDouble?_eq_none_iff]
    simp [isNonFinite, asList?, asFields?]
  | .list items => by
    rw [holdsNonFinite_iff, toJson?, Option.map_eq_none_iff, toJsonItems?_eq_none_iff items]
    simp [isNonFinite, asList?, asFields?]
  | .map fields | .node _ _ fields | .rel _ _ _ _ fields => by
    rw [holdsNonFinite_iff, toJson?, Option.map_eq_none_iff, toJsonFields?_eq_none_iff fields]
    simp [isNonFinite, asList?, asFields?]

theorem toJsonItems?_eq_none_iff : ∀ items : List Value,
    toJsonItems? items = none ↔ ∃ part ∈ items, part.HoldsNonFinite
  | [] => by simp [toJsonItems?]
  | item :: items => by
    simp only [List.mem_cons, exists_eq_or_imp, ← toJson?_eq_none_iff item,
      ← toJsonItems?_eq_none_iff items, toJsonItems?]
    cases item.toJson? <;> cases toJsonItems? items <;> simp

theorem toJsonFields?_eq_none_iff : ∀ fields : List (String × Value),
    toJsonFields? fields = none ↔ ∃ field ∈ fields, field.2.HoldsNonFinite
  | [] => by simp [toJsonFields?]
  | (name, v) :: fields => by
    simp only [List.mem_cons, exists_eq_or_imp, ← toJson?_eq_none_iff v,
      ← toJsonFields?_eq_none_iff fields, toJsonFields?]
    cases v.toJson? <;> cases toJsonFields? fields <;> simp

end

/-- No document is changed by being made a value and back, and the values that have no document at
    all are those in which a floating-point number that is not finite occurs. -/
theorem json_bridging :
    (∀ json : Json, (ofJson json).toJson? = some json) ∧
      ∀ v : Value, v.toJson? = none ↔
        ∃ number, OccursIn number v ∧ number.isNonFinite = true :=
  ⟨toJson?_ofJson, toJson?_eq_none_iff⟩

end Value

end GraphQuery
