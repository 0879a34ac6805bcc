import GraphQuery.Proofs.Record.Columns
import GraphQuery.Proofs.Scope

namespace GraphQuery

namespace Fields

/-- A field of a nested record has a column, unless it is absent and the property is optional. -/
def Keeps (fields : Fields Json) (property : Property) : Prop :=
  ∃ json, fields.get? property.name = some json ∧ (json.isNull && property.isOptional) = false

/-- A record has a field of a name that is not absent. -/
def Holds (fields : Fields Json) (name : String) : Prop :=
  ∃ json, fields.get? name = some json ∧ json.isNull = false

variable {fields : Fields Json} {name other : String}

theorem erase_of_get?_eq_none (hget : fields.get? name = none) : fields.erase name = fields := by
  refine List.filter_eq_self.mpr fun field hmem => ?_
  have hne : field.1 ≠ name := by
    rintro rfl
    exact get?_eq_none_iff.mp hget (List.mem_map_of_mem hmem)
  simpa using hne

theorem absent_of_not_keeps {property : Property} (hskipped : ¬ fields.Keeps property) :
    ∀ json, fields.get? property.name = some json →
      json.isNull = true ∧ property.isOptional = true := by
  intro json hfield
  rw [← Bool.and_eq_true_iff]
  by_contra hkept
  exact hskipped ⟨json, hfield, Bool.eq_false_iff.mpr hkept⟩

theorem not_holds_of_absent (habsent : ∀ json, fields.get? name = some json → json.isNull = true) :
    ¬ fields.Holds name := by
  rintro ⟨json, hget, hpresent⟩
  rw [habsent json hget] at hpresent
  cases hpresent

theorem holds_erase_iff (hne : other ≠ name) :
    (fields.erase name).Holds other ↔ fields.Holds other := by
  rw [Holds, get?_erase_of_ne hne, Holds]

end Fields

namespace Record

/-- The first of the properties of a nested record has a column if its field is kept. -/
theorem encodeFields_cons_eq_ok {fields : Fields Json} {property : Property}
    {properties : List Property} {path : Path} {columns : List (String × Value)}
    (hencode : encodeFields path fields (property :: properties) = .ok columns) :
    (¬ fields.Keeps property ∧ encodeFields path fields properties = .ok columns) ∨
      ∃ json v more, fields.get? property.name = some json ∧
        (json.isNull && property.isOptional) = false ∧
        encode (path.field property.name) json property.kind = .ok v ∧
        encodeFields path fields properties = .ok more ∧
        columns = (property.columnName, v) :: more := by
  obtain ⟨name, column, kind, _, _, isOptional⟩ := property
  unfold encodeFields at hencode
  cases hfield : fields.get? name with
  | none =>
    rw [hfield] at hencode
    refine .inl ⟨?_, hencode⟩
    rintro ⟨json, hjson, _⟩
    rw [hfield] at hjson
    cases hjson
  | some json =>
    simp only [hfield] at hencode
    cases hskipped : json.isNull && isOptional with
    | true =>
      rw [hskipped, if_pos rfl] at hencode
      refine .inl ⟨?_, hencode⟩
      rintro ⟨other, hother, hkept⟩
      obtain rfl : json = other := Option.some.inj (hfield.symm.trans hother)
      rw [hskipped] at hkept
      cases hkept
    | false =>
      rw [hskipped, if_neg Bool.false_ne_true] at hencode
      simp only [Except.bind_eq_ok] at hencode
      obtain ⟨v, hvalue, more, hmore, heq⟩ := hencode
      cases heq
      exact .inr ⟨json, v, more, rfl, hskipped, hvalue, hmore, rfl⟩

/-- The declared properties of a record are encoded as columns, and some fields of the record are
    left over. A property whose field is missing has no column, nor has an optional one whose field
    is absent. -/
inductive Declared (schema : Schema) :
    Fields Json → List Property → List (String × Value) → Fields Json → Prop
  | nil (fields : Fields Json) : Declared schema fields [] [] fields
  | absent {fields rest : Fields Json} {property : Property} {properties : List Property}
      {columns : List (String × Value)}
      (habsent : ∀ json, fields.get? property.name = some json →
        json.isNull = true ∧ property.isOptional = true)
      (hcolumns : Declared schema (fields.erase property.name) properties columns rest) :
      Declared schema fields (property :: properties) columns rest
  | present {fields rest : Fields Json} {property : Property} {properties : List Property}
      {columns : List (String × Value)} {json : Json} {v : Value}
      (hfield : fields.get? property.name = some json) (hpresent : json.isNull = false)
      (hencode : encodeProperty schema property json = .ok v)
      (hcolumns : Declared schema (fields.erase property.name) properties columns rest) :
      Declared schema fields (property :: properties) ((property.columnName, v) :: columns) rest

theorem declared_of_encodeDeclared {schema : Schema} {fields rest : Fields Json}
    {properties : List Property} {columns : List (String × Value)}
    (hencode : encodeDeclared schema fields properties = .ok (columns, rest)) :
    Declared schema fields properties columns rest := by
  induction properties generalizing fields columns with
  | nil =>
    cases hencode
    exact .nil _
  | cons property properties ih =>
    unfold encodeDeclared at hencode
    cases hfield : fields.get? property.name with
    | none =>
      rw [hfield] at hencode
      refine .absent (fun json hjson => by simp [hfield] at hjson) ?_
      rw [Fields.erase_of_get?_eq_none hfield]
      exact ih hencode
    | some json =>
      simp only [hfield] at hencode
      cases hnull : json.isNull with
      | true =>
        rw [hnull, if_pos rfl] at hencode
        split at hencode
        · rename_i hoptional
          refine .absent (fun other hother => ?_) (ih hencode)
          obtain rfl : json = other := Option.some.inj (hfield.symm.trans hother)
          exact ⟨hnull, hoptional⟩
        · cases hencode
      | false =>
        rw [hnull, if_neg Bool.false_ne_true] at hencode
        simp only [Except.bind_eq_ok, Prod.exists] at hencode
        obtain ⟨v, hvalue, more, left, hmore, heq⟩ := hencode
        cases heq
        exact .present hfield hnull hvalue (ih hmore)

namespace Declared

variable {schema : Schema} {fields rest : Fields Json} {properties : List Property}
  {columns : List (String × Value)}

theorem names_sublist (hcolumns : Declared schema fields properties columns rest) :
    (Fields.names columns).Sublist (properties.map (·.columnName)) := by
  induction hcolumns with
  | nil => exact List.Sublist.slnil
  | absent _ _ ih => exact ih.cons _
  | present _ _ _ _ ih => exact ih.cons_cons _

/-- The fields that are left over are those that no property names. -/
theorem rest_eq (hcolumns : Declared schema fields properties columns rest) :
    rest = fields.filter fun field => field.1 ∉ properties.map (·.name) := by
  induction hcolumns with
  | nil => simp
  | absent _ _ ih | present _ _ _ _ ih =>
    rw [ih, Fields.erase, List.filter_filter]
    refine List.filter_congr fun field _ => ?_
    simp only [List.map_cons, List.mem_cons, not_or, ne_eq, ← Bool.decide_and]
    exact decide_eq_decide.mpr and_comm

/-- A column is that of a property whose field is not absent. -/
theorem mem_names_iff (hcolumns : Declared schema fields properties columns rest)
    (hdistinct : (properties.map (·.name)).Nodup) {column : String} :
    column ∈ Fields.names columns ↔
      ∃ property ∈ properties, property.columnName = column ∧ fields.Holds property.name := by
  have herased : ∀ {fields : Fields Json} {property : Property} {properties : List Property},
      property.name ∉ properties.map (·.name) → ∀ other ∈ properties,
        ((fields.erase property.name).Holds other.name ↔ fields.Holds other.name) := by
    intro fields property properties hnew other hother
    refine Fields.holds_erase_iff fun heq => hnew ?_
    exact List.mem_map.mpr ⟨other, hother, heq⟩
  induction hcolumns with
  | nil => simp [Fields.names]
  | @absent fields rest property properties columns habsent _ ih =>
    obtain ⟨hnew, hdistinct⟩ := List.nodup_cons.mp hdistinct
    refine (ih hdistinct).trans ?_
    have hnone := Fields.not_holds_of_absent fun json hjson => (habsent json hjson).1
    rw [List.exists_mem_cons_iff, or_iff_right fun h => hnone h.2]
    exact exists_congr fun other => and_congr_right fun hother =>
      and_congr_right fun _ => herased hnew other hother
  | @present fields rest property properties columns json v hfield hpresent _ _ ih =>
    obtain ⟨hnew, hdistinct⟩ := List.nodup_cons.mp hdistinct
    have hholds : fields.Holds property.name := ⟨json, hfield, hpresent⟩
    have hmore := (ih hdistinct).trans <| exists_congr fun other => and_congr_right fun hother =>
      and_congr_right fun _ => herased hnew other hother
    change column ∈ property.columnName :: Fields.names columns ↔ _
    rw [List.mem_cons, List.exists_mem_cons_iff, and_iff_left hholds, eq_comm]
    exact or_congr_right hmore

end Declared

end Record

end GraphQuery
