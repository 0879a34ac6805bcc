import GraphQuery.Json
import GraphQuery.Schema

namespace GraphQuery

namespace Kind

mutual

/-- No part of a kind is a vector. -/
def Vectorless : Kind → Prop
  | .list inner => Vectorless inner
  | .struct properties => VectorlessParts properties
  | .vector _ => False
  | _ => True

/-- No part of the kinds of properties is a vector. -/
def VectorlessParts : List (PropertyOf Kind) → Prop
  | [] => True
  | ⟨_, _, kind, _, _, _⟩ :: properties => Vectorless kind ∧ VectorlessParts properties

end

mutual

/-- No structure of a kind misses a field in a document, save for those of optional properties.
    Whether the fields are absent is left open. -/
def Supplied (json : Json) : Kind → Prop
  | .list inner => ∀ items, json = .array items → ∀ item ∈ items, Supplied item inner
  | .struct properties => ∀ fields : Fields Json, json = .object fields →
    SuppliedFields fields properties
  | _ => True

/-- Every property has a field, which is supplied itself, or is optional. -/
def SuppliedFields (fields : Fields Json) : List (PropertyOf Kind) → Prop
  | [] => True
  | ⟨name, _, kind, _, _, isOptional⟩ :: properties =>
    (match fields.get? name with
      | none => isOptional = true
      | some json => Supplied json kind) ∧
    SuppliedFields fields properties

end

mutual

/-- Nothing in a document is absent where a kind does not allow it: no item of a list, and no field
    of a property that is not optional. -/
def NullsAllowed (json : Json) : Kind → Prop
  | .list inner => ∀ items, json = .array items →
    ∀ item ∈ items, item.isNull = false ∧ NullsAllowed item inner
  | .struct properties => ∀ fields : Fields Json, json = .object fields →
    NullsAllowedFields fields properties
  | _ => True

/-- Every field of properties is allowed as it is. -/
def NullsAllowedFields (fields : Fields Json) : List (PropertyOf Kind) → Prop
  | [] => True
  | ⟨name, _, kind, _, _, isOptional⟩ :: properties =>
    (∀ json, fields.get? name = some json →
      if json.isNull then isOptional = true else NullsAllowed json kind) ∧
    NullsAllowedFields fields properties

end

end Kind

end GraphQuery
