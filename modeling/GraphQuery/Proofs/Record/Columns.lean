import GraphQuery.Proofs.Fields.Lookup
import GraphQuery.Proofs.Record.Canonical
import GraphQuery.Record.Coerce
import GraphQuery.Record.Encode

namespace GraphQuery

@[simp]
theorem Except.ok_bind {ε α β : Type} (a : α) (next : α → Except ε β) :
    (Except.ok a >>= next) = next a :=
  rfl

namespace Fields

variable {α : Type u} {left fields : Fields α} {name : String} {names : List String}

/-- A table agrees with another one on further names also after a name is taken out of it. -/
theorem get?_erase_of_agrees (hnew : name ∉ names)
    (hagrees : ∀ other ∈ name :: names, left.get? other = fields.get? other) :
    ∀ other ∈ names, (left.erase name).get? other = fields.get? other := by
  intro other hother
  rw [get?_erase_of_ne (ne_of_mem_of_not_mem hother hnew)]
  exact hagrees other (List.mem_cons_of_mem _ hother)

/-- What is in a table without a name is neither that one nor one that is excluded otherwise. -/
theorem not_mem_cons_of_erase (hrest : ∀ other ∈ fields.names,
      other ∈ (left.erase name).names ∧ other ∉ names) :
    ∀ other ∈ fields.names, other ∈ left.names ∧ other ∉ name :: names := by
  intro other hother
  obtain ⟨hleft, hnames⟩ := hrest other hother
  refine ⟨names_erase_subset left name hleft, List.not_mem_cons_of_ne_of_not_mem ?_ hnames⟩
  rintro rfl
  exact not_mem_names_erase left other hleft

/-- Nothing is left of a table when all of its names are excluded. -/
theorem eq_nil_of_excluded (hnames : fields.names ⊆ names)
    (hleft : ∀ other ∈ left.names, other ∈ fields.names ∧ other ∉ names) : left = [] := by
  cases left with
  | nil => rfl
  | cons entry left =>
    obtain ⟨hmem, hother⟩ := hleft entry.1 List.mem_cons_self
    exact absurd (hnames hmem) hother

end Fields

theorem Kind.withNulls_of_isNull {json : Json} (hnull : json.isNull = true) (kind : Kind) :
    kind.withNulls json = .null := by
  cases json with
  | null => cases kind <;> rfl
  | _ => cases hnull

namespace Record

/-- A value is what a canonical document of a kind is encoded as, and decoding it gives the document
    with its missing fields put in. -/
structure Carries (kind : Kind) (json : Json) (v : Value) : Prop where
  canonical : kind.Canonical json
  present : v.isNull = false
  encode_eq : ∀ path, encode path json kind = .ok v
  coerce_eq : ∀ path, coerce path v kind = .ok (kind.withNulls json)

/-- Columns hold the fields of a record in the order of its properties. Optional properties whose
    field is missing or absent have no column. -/
inductive Columns (fields : Fields Json) : List Property → List (String × Value) → Prop
  | nil : Columns fields [] []
  | absent {property : Property} {properties : List Property} {columns : List (String × Value)}
      (habsent : ∀ json, fields.get? property.name = some json → json.isNull = true)
      (hoptional : property.isOptional = true) (hcolumns : Columns fields properties columns) :
      Columns fields (property :: properties) columns
  | present {property : Property} {properties : List Property} {columns : List (String × Value)}
      {json : Json} {v : Value} (hfield : fields.get? property.name = some json)
      (hcarries : Carries property.kind json v) (hcolumns : Columns fields properties columns) :
      Columns fields (property :: properties) ((property.columnName, v) :: columns)

namespace Columns

variable {fields : Fields Json} {properties : List Property} {columns : List (String × Value)}

theorem names_sublist (hcolumns : Columns fields properties columns) :
    (Fields.names columns).Sublist (properties.map (·.columnName)) := by
  induction hcolumns with
  | nil => exact List.Sublist.slnil
  | absent _ _ _ ih => exact ih.cons _
  | present _ _ _ ih => exact ih.cons_cons _

/-- No column is there twice. -/
theorem names_nodup (hcolumns : Columns fields properties columns)
    (hdistinct : (properties.map (·.columnName)).Nodup) : (Fields.names columns).Nodup :=
  hcolumns.names_sublist.nodup hdistinct

/-- A nested record is encoded as its columns. -/
theorem encodeFields_eq (hcolumns : Columns fields properties columns) (path : Path) :
    encodeFields path fields properties = .ok columns := by
  induction hcolumns with
  | nil => rfl
  | @absent property _ _ habsent hoptional _ ih =>
    obtain ⟨name, column, kind, _, _, isOptional⟩ := property
    unfold encodeFields
    cases hfield : fields.get? name with
    | none => exact ih
    | some json =>
      have hnull : (json.isNull && isOptional) = true := by
        rw [habsent json hfield, Bool.true_and]
        exact hoptional
      simp only [hnull, if_true]
      exact ih
  | @present property _ _ json v hfield hcarries _ ih =>
    obtain ⟨name, column, kind, _, _, isOptional⟩ := property
    have hnull : (json.isNull && isOptional) = false := by
      rw [hcarries.canonical.isNull_eq_false, Bool.false_and]
    have hencode := hcarries.encode_eq (path.field name)
    unfold encodeFields
    simp only at hfield hencode
    simp [hfield, hnull, hencode, ih, PropertyOf.columnName]

/-- A property that is not absent is encoded the way a field is, the check of the length of a vector
    being passed. -/
theorem encodeProperty_eq (schema : Schema) {property : Property} {json : Json} {v : Value}
    (hcarries : Carries property.kind json v) : encodeProperty schema property json = .ok v := by
  have hencode := hcarries.encode_eq (Path.field schema.name property.name)
  unfold encodeProperty
  split
  · rename_i dimension items hdimension hitems
    have hlength := hcarries.canonical.length_eq hdimension hitems
    rw [if_neg (not_not_intro hlength), hencode]
  · exact hencode

/-- The declared properties of a record are encoded as its columns. The fields that are left are
    those that no property names. -/
theorem encodeDeclared_eq (hcolumns : Columns fields properties columns) (schema : Schema)
    (hdistinct : (properties.map (·.name)).Nodup) (left : Fields Json)
    (hleft : ∀ name ∈ properties.map (·.name), left.get? name = fields.get? name) :
    ∃ rest, encodeDeclared schema left properties = .ok (columns, rest) ∧
      ∀ name ∈ rest.names, name ∈ left.names ∧ name ∉ properties.map (·.name) := by
  induction hcolumns generalizing left with
  | nil => exact ⟨left, rfl, fun name hname => ⟨hname, List.not_mem_nil⟩⟩
  | @absent property properties columns habsent hoptional _ ih =>
    obtain ⟨hnew, hdistinct⟩ := List.nodup_cons.mp hdistinct
    have hhead := hleft _ List.mem_cons_self
    cases hfield : fields.get? property.name with
    | none =>
      obtain ⟨rest, hencode, hrest⟩ :=
        ih hdistinct left fun name hname => hleft name (List.mem_cons_of_mem _ hname)
      refine ⟨rest, ?_, fun name hname => ?_⟩
      · simp only [encodeDeclared, hhead, hfield, hencode]
      · obtain ⟨hmem, hother⟩ := hrest name hname
        refine ⟨hmem, List.not_mem_cons_of_ne_of_not_mem ?_ hother⟩
        rintro rfl
        rw [← Fields.isSome_get?_iff, hhead, hfield] at hmem
        cases hmem
    | some json =>
      obtain ⟨rest, hencode, hrest⟩ :=
        ih hdistinct (left.erase property.name) (Fields.get?_erase_of_agrees hnew hleft)
      refine ⟨rest, ?_, Fields.not_mem_cons_of_erase hrest⟩
      simp only [encodeDeclared, hhead, hfield, habsent json hfield, hoptional, if_true, hencode]
  | @present property properties columns json v hfield hcarries _ ih =>
    obtain ⟨hnew, hdistinct⟩ := List.nodup_cons.mp hdistinct
    have hhead := hleft _ List.mem_cons_self
    obtain ⟨rest, hencode, hrest⟩ :=
      ih hdistinct (left.erase property.name) (Fields.get?_erase_of_agrees hnew hleft)
    refine ⟨rest, ?_, Fields.not_mem_cons_of_erase hrest⟩
    simp [encodeDeclared, hhead, hfield, hcarries.canonical.isNull_eq_false,
      encodeProperty_eq schema hcarries, hencode]

/-- Reading the columns of a record gives its fields, with the missing ones put in. -/
theorem coerceFields_eq (hcolumns : Columns fields properties columns)
    (hdistinct : (properties.map (·.columnName)).Nodup) (path : String → Path)
    (value? : String → Option Value)
    (hvalue : ∀ name ∈ properties.map (·.columnName), value? name = Fields.get? columns name) :
    coerceFields path value? properties = .ok (Kind.fieldsWithNulls fields properties) := by
  induction hcolumns generalizing value? with
  | nil => rfl
  | @absent property properties columns habsent hoptional hcolumns ih =>
    obtain ⟨hnew, hdistinct⟩ := List.nodup_cons.mp hdistinct
    have hnone : value? property.columnName = none := by
      rw [hvalue _ List.mem_cons_self, Fields.get?_eq_none_iff]
      exact fun hmem => hnew (hcolumns.names_sublist.subset hmem)
    have hrest := ih hdistinct value? fun name hname => hvalue name (List.mem_cons_of_mem _ hname)
    obtain ⟨name, column, kind, _, _, isOptional⟩ := property
    have hnull : ((fields.get? name).elim .null fun json => kind.withNulls json) = Json.null := by
      cases hfield : fields.get? name with
      | none => rfl
      | some json => exact Kind.withNulls_of_isNull (habsent json hfield) kind
    simp only [PropertyOf.columnName] at hnone hoptional
    simp [coerceFields, Kind.fieldsWithNulls, hnone, hoptional, hrest, hnull]
  | @present property properties columns json v hfield hcarries _ ih =>
    obtain ⟨hnew, hdistinct⟩ := List.nodup_cons.mp hdistinct
    have hsome : value? property.columnName = some v := by
      rw [hvalue _ List.mem_cons_self, Fields.get?_cons, if_pos rfl]
    have hrest := ih hdistinct value? fun name hname => by
      have hne : name ≠ property.columnName := ne_of_mem_of_not_mem hname hnew
      rw [hvalue name (List.mem_cons_of_mem _ hname), Fields.get?_cons, if_neg hne]
    obtain ⟨name, column, kind, _, _, isOptional⟩ := property
    have hcoerce := hcarries.coerce_eq (path name)
    simp only [PropertyOf.columnName] at hsome hfield hcoerce
    simp [coerceFields, Kind.fieldsWithNulls, hsome, hfield, hcarries.present, hcoerce, hrest]

end Columns

end Record

end GraphQuery
