import GraphQuery.Json
import GraphQuery.Schema
import GraphQuery.Time.Timestamp
import GraphQuery.Uuid

namespace GraphQuery

namespace Kind

mutual

/-- At every level the properties of a structure have different names and are held by different
    columns. -/
def Distinct : Kind → Prop
  | .list inner => Distinct inner
  | .struct properties =>
    (properties.map (·.name)).Nodup ∧ (properties.map (·.columnName)).Nodup ∧
      DistinctParts properties
  | _ => True

/-- The structures among the kinds of properties are distinct. -/
def DistinctParts : List (PropertyOf Kind) → Prop
  | [] => True
  | ⟨_, _, kind, _, _, _⟩ :: properties => Distinct kind ∧ DistinctParts properties

end

/-- A number with a fraction or an exponent that single precision has exactly. -/
def CanonicalSingle (json : Json) : Prop :=
  ∃ x, json = .real x ∧ x.val.narrow.widen = x.val

mutual

/-- A document is one of a kind, in the spelling that decoding gives. The absent value is canonical
    for no kind. -/
def Canonical (json : Json) : Kind → Prop
  | .string => ∃ s, json = .string s
  | .bool => ∃ b, json = .bool b
  | .int width => ∃ n, json = .integer n ∧ width.Holds n.val
  | .float => CanonicalSingle json
  | .double => ∃ x, json = .real x
  | .uuid => ∃ s, json = .string s ∧ (Uuid.read? s).map Uuid.text = some s
  | .timestamp => ∃ s, json = .string s ∧ (Timestamp.read? s).map Timestamp.text = some s
  | .date => ∃ s, json = .string s ∧ (Date.read? s).map Date.text = some s
  | .list inner => ∃ items, json = .array items ∧ ∀ item ∈ items, Canonical item inner
  | .vector dimension =>
    ∃ items, json = .array items ∧ items.length = dimension ∧ ∀ item ∈ items, CanonicalSingle item
  | .struct properties =>
    ∃ fields : Fields Json, json = .object fields ∧
      fields.names ⊆ properties.map (·.name) ∧ CanonicalFields fields properties

/-- The fields that properties name are canonical. Where a property is optional its field may be
    missing or absent. -/
def CanonicalFields (fields : Fields Json) : List (PropertyOf Kind) → Prop
  | [] => True
  | ⟨name, _, kind, _, _, isOptional⟩ :: properties =>
    (match fields.get? name with
      | none => isOptional = true
      | some json => (json.isNull = true ∧ isOptional = true) ∨ Canonical json kind) ∧
    CanonicalFields fields properties

end

mutual

/-- A document with every missing field of its structures put in as the absent value. -/
def withNulls (json : Json) : Kind → Json
  | .list inner =>
    match json with
    | .array items => .array (items.map fun item => withNulls item inner)
    | other => other
  | .struct properties =>
    match json with
    | .object fields => .object (Fields.ofList (fieldsWithNulls fields properties))
    | other => other
  | _ => json

/-- The fields that properties name, with the missing ones put in. -/
def fieldsWithNulls (fields : Fields Json) : List (PropertyOf Kind) → List (String × Json)
  | [] => []
  | ⟨name, _, kind, _, _, _⟩ :: properties =>
    (name, (fields.get? name).elim .null fun json => withNulls json kind) ::
      fieldsWithNulls fields properties

end

theorem CanonicalSingle.isNull_eq_false {json : Json} (hcanonical : CanonicalSingle json) :
    json.isNull = false := by
  obtain ⟨x, rfl, _⟩ := hcanonical
  rfl

theorem Canonical.isNull_eq_false {json : Json} {kind : Kind} (hcanonical : Canonical json kind) :
    json.isNull = false := by
  cases kind with
  | float => exact CanonicalSingle.isNull_eq_false hcanonical
  | _ =>
    obtain ⟨_, hjson⟩ := hcanonical
    simp_all [Json.isNull]

/-- A canonical document of a vector kind has the length of the kind. -/
theorem Canonical.length_eq {json : Json} {kind : Kind} {items : List Json} {dimension : Nat}
    (hcanonical : Canonical json kind) (hdimension : kind.dimension? = some dimension)
    (hitems : json.asArray? = some items) : items.length = dimension := by
  cases kind with
  | vector length =>
    obtain ⟨items', rfl, hlength, _⟩ := hcanonical
    cases hdimension
    cases hitems
    exact hlength
  | _ => cases hdimension

end Kind

/-- The kind of the records of a schema. -/
def Schema.recordKind (schema : Schema) : Kind :=
  .struct schema.properties

end GraphQuery
