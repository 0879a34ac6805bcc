import GraphQuery.Proofs.Fields.Lookup
import GraphQuery.Proofs.Record.Canonical

namespace GraphQuery

namespace Kind

mutual

/-- No structure of a kind misses a field in a document, or has one that is not declared. -/
def Complete (json : Json) : Kind → Prop
  | .list inner => ∀ items, json = .array items → ∀ item ∈ items, Complete item inner
  | .struct properties => ∀ fields : Fields Json, json = .object fields →
    fields.Sorted ∧ fields.names ⊆ properties.map (·.name) ∧ CompleteFields fields properties
  | _ => True

/-- Every property has a field, which is complete itself. -/
def CompleteFields (fields : Fields Json) : List (PropertyOf Kind) → Prop
  | [] => True
  | ⟨name, _, kind, _, _, _⟩ :: properties =>
    (∃ json, fields.get? name = some json ∧ Complete json kind) ∧ CompleteFields fields properties

end

theorem names_fieldsWithNulls (fields : Fields Json) (properties : List Property) :
    Fields.names (fieldsWithNulls fields properties) = properties.map (·.name) := by
  induction properties with
  | nil => rfl
  | cons property properties ih => exact congrArg (property.name :: ·) ih

mutual

/-- Where no field is missing there is nothing to put in. -/
theorem withNulls_eq_self : ∀ (kind : Kind) (json : Json), kind.Distinct → kind.Complete json →
    kind.withNulls json = json
  | .list inner, json, hdistinct, hcomplete => by
    cases json with
    | array items =>
      have hitems : items.map (fun item => inner.withNulls item) = items.map id :=
        List.map_congr_left fun item hitem =>
          withNulls_eq_self inner item hdistinct (hcomplete items rfl item hitem)
      simp only [withNulls, hitems, List.map_id]
    | _ => rfl
  | .struct properties, json, hdistinct, hcomplete => by
    cases json with
    | object fields =>
      obtain ⟨hsorted, hdeclared, hfields⟩ := hcomplete fields rfl
      obtain ⟨hnames, _, hparts⟩ := hdistinct
      rw [← names_fieldsWithNulls fields] at hnames hdeclared
      have htable : Fields.ofList (fieldsWithNulls fields properties) = fields := by
        refine (Fields.sorted_ofList _).ext hsorted fun name => ?_
        rw [Fields.get?_ofList hnames]
        by_cases hname : name ∈ Fields.names (fieldsWithNulls fields properties)
        · rw [names_fieldsWithNulls] at hname
          exact get?_fieldsWithNulls properties fields hparts hfields name hname
        · have hmissing : name ∉ Fields.names fields := fun hmem => hname (hdeclared hmem)
          rw [Fields.get?_eq_none_iff.mpr hname, Fields.get?_eq_none_iff.mpr hmissing]
      simp only [withNulls, htable]
    | _ => rfl
  | .string, _, _, _ | .bool, _, _, _ | .int _, _, _, _ | .float, _, _, _ | .double, _, _, _
  | .uuid, _, _, _ | .timestamp, _, _, _ | .date, _, _, _ | .vector _, _, _, _ => rfl

theorem get?_fieldsWithNulls : ∀ (properties : List Property) (fields : Fields Json),
    DistinctParts properties → CompleteFields fields properties →
    ∀ name ∈ properties.map (·.name),
      Fields.get? (fieldsWithNulls fields properties) name = fields.get? name
  | [], _, _, _, name, hname => by cases hname
  | ⟨name, _, kind, _, _, _⟩ :: properties, fields, hdistinct, hcomplete, other, hother => by
    obtain ⟨hkind, hparts⟩ := hdistinct
    obtain ⟨⟨json, hjson, hcomplete⟩, hfields⟩ := hcomplete
    have hhead : withNulls json kind = json := withNulls_eq_self kind json hkind hcomplete
    rw [fieldsWithNulls, Fields.get?_cons]
    by_cases heq : other = name
    · simp [heq, hjson, hhead]
    · rw [if_neg heq]
      exact get?_fieldsWithNulls properties fields hparts hfields other
        (List.mem_of_ne_of_mem heq hother)

end

end Kind

end GraphQuery
