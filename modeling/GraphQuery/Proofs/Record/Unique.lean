import GraphQuery.Proofs.Record.Declared
import GraphQuery.Query.Pattern
import GraphQuery.Query.Record

namespace GraphQuery

theorem Fields.holds_iff_mem {fields : Fields Json} (hdistinct : fields.names.Nodup)
    {name : String} : fields.Holds name ↔ ∃ json, (name, json) ∈ fields ∧ json.isNull = false := by
  refine exists_congr fun json => and_congr_left fun _ => ?_
  exact ⟨mem_of_get?, get?_of_mem hdistinct⟩

namespace Record

/-- The columns of the fields that are not declared are the names of those that are not absent. -/
theorem names_encodeUndeclared (fields : Fields Json) :
    Fields.names (encodeUndeclared fields) =
      Fields.names (fields.filter fun field => !field.2.isNull) := by
  induction fields with
  | nil => rfl
  | cons field fields ih =>
    obtain ⟨name, json⟩ := field
    unfold encodeUndeclared at ih ⊢
    cases hnull : json.isNull <;> simp [hnull, Fields.names] at ih ⊢ <;> exact ih

/-- The fields that are not declared have a column each if they are not absent. -/
theorem Declared.mem_undeclared_iff {schema : Schema} {fields rest : Fields Json}
    {properties : List Property} {columns : List (String × Value)} {column : String}
    (hcolumns : Declared schema fields properties columns rest) (hfields : fields.names.Nodup) :
    column ∈ Fields.names (encodeUndeclared rest) ↔
      fields.Holds column ∧ column ∉ properties.map (·.name) := by
  rw [names_encodeUndeclared, hcolumns.rest_eq, Fields.holds_iff_mem hfields, List.filter_filter,
    Fields.names, List.mem_map]
  constructor
  · rintro ⟨⟨_, json⟩, hentry, rfl⟩
    obtain ⟨hfield, hkept⟩ := List.mem_filter.mp hentry
    simp only [Bool.and_eq_true, Bool.not_eq_true', decide_eq_true_eq] at hkept
    exact ⟨⟨json, hfield, hkept.1⟩, hkept.2⟩
  · rintro ⟨⟨json, hfield, hpresent⟩, hother⟩
    refine ⟨(column, json), List.mem_filter.mpr ⟨hfield, ?_⟩, rfl⟩
    simp only [Bool.and_eq_true, Bool.not_eq_true', decide_eq_true_eq]
    exact ⟨hpresent, hother⟩

end Record

namespace Pattern

/-- The columns of the inline properties of what a pattern stands for. -/
def inlineColumns (pattern : Pattern) : List String :=
  pattern.properties.map fun (name, _) => pattern.columnFor name

/-- Without a schema the names of values are their columns. -/
theorem inlineColumns_values {pattern : Pattern} {columns : List (String × Value)}
    (hschema : pattern.schema? = none)
    (hproperties : pattern.properties = columns.map fun (name, v) => (name, .value v)) :
    pattern.inlineColumns = Fields.names columns := by
  have hcolumn : ∀ name, pattern.columnFor name = name := by
    simp [columnFor, hschema]
  simp [inlineColumns, hproperties, hcolumn, Fields.names]

end Pattern

/-- The columns that a clause writes when it is carried out: those of what is created, also by a
    merge that finds nothing, and those of assignments. -/
def Clause.writtenColumns : Clause → List String
  | .create patterns => patterns.flatMap Pattern.inlineColumns
  | .merge pattern matchOn onCreate _ =>
    pattern.inlineColumns ++ (matchOn ++ onCreate).map fun (name, _) => pattern.columnFor name
  | .set assignments => assignments.map fun assignment => assignment.target.column
  | _ => []

namespace Model

variable {α : Type}

/-- A clause that writes a record: one that creates a node or an edge for it, sets its columns, or
    merges it. -/
inductive Writes (model : Model α) (record : α) : Clause → Prop
  | create {aliasName : String} {clause : Clause}
      (hcreate : model.create aliasName record = .ok clause) : Writes model record clause
  | createEdge {aliasName source target : String} {clause : Clause}
      (hcreate : model.createEdge aliasName source target record = .ok clause) :
      Writes model record clause
  | set {aliasName : String} {assignments : List Assignment}
      (hassign : model.assign aliasName record = .ok assignments) :
      Writes model record (.set assignments)
  | merge {aliasName : String} {keys : List String} {clause : Clause}
      (hmerge : model.merge aliasName record keys = .ok clause) : Writes model record clause

variable {record : α} {columns : List (String × Value)}

/-- A clause that writes a record writes just the columns that the record is encoded as. -/
theorem Writes.perm {model : Model α} {clause : Clause} (hwrites : model.Writes record clause)
    (hencode : model.encode record = .ok columns) :
    clause.writtenColumns.Perm (Fields.names columns) := by
  cases hwrites with
  | create hcreate =>
    rw [Model.create, hencode] at hcreate
    cases hcreate
    rw [Clause.writtenColumns, List.flatMap_singleton, Pattern.inlineColumns_values rfl rfl]
  | createEdge hcreate =>
    rw [Model.createEdge, hencode] at hcreate
    cases hcreate
    rw [Clause.writtenColumns, List.flatMap_singleton, Pattern.inlineColumns_values rfl rfl]
  | set hassign =>
    rw [assign, hencode] at hassign
    cases hassign
    simp [Clause.writtenColumns, Fields.names, Function.comp_def]
  | merge hmerge =>
    simp only [Model.merge, hencode, Except.bind_eq_ok] at hmerge
    obtain ⟨keys, _, _, hcolumns, hmerge⟩ := hmerge
    cases hcolumns
    simp only [List.partition_eq_filter_filter] at hmerge
    split at hmerge
    · cases hmerge
    · cases hmerge
      have hperm := List.filter_append_perm (fun column => keys.contains column.1) columns
      exact hperm.map Prod.fst

/-- The columns of a record are distinct unless it has both a field for a property that another
    column holds and an undeclared field of the name of that column. The clauses that write the
    record write each column as often as the record has it. -/
theorem encode_columns_nodup_iff (model : Model α) {fields : Fields Json}
    (hserialize : model.serialize record = .ok (.object fields))
    (hfields : fields.names.Nodup)
    (hnames : (model.schema.properties.map (·.name)).Nodup)
    (hcolumns : (model.schema.properties.map (·.columnName)).Nodup)
    (hencode : model.encode record = .ok columns) :
    ((Fields.names columns).Nodup ↔
        ∀ property ∈ model.schema.properties, fields.Holds property.name →
          fields.Holds property.columnName →
            property.columnName ∈ model.schema.properties.map (·.name)) ∧
      ∀ clause, model.Writes record clause →
        (clause.writtenColumns.Nodup ↔ (Fields.names columns).Nodup) := by
  refine ⟨?_, fun clause hwrites => (hwrites.perm hencode).nodup_iff⟩
  simp only [encode, hserialize, Json.asObject?, Except.bind_eq_ok, Prod.exists] at hencode
  obtain ⟨declared, rest, hdeclared, heq⟩ := hencode
  cases heq
  have hdeclared := Record.declared_of_encodeDeclared hdeclared
  have hundeclared : (Fields.names (Record.encodeUndeclared rest)).Nodup := by
    rw [Record.names_encodeUndeclared, hdeclared.rest_eq]
    exact ((List.filter_sublist.trans List.filter_sublist).map _).nodup hfields
  have happend : Fields.names (declared ++ Record.encodeUndeclared rest) =
      Fields.names declared ++ Fields.names (Record.encodeUndeclared rest) := List.map_append
  rw [happend, List.nodup_append, and_iff_right (hdeclared.names_sublist.nodup hcolumns),
    and_iff_right hundeclared]
  constructor
  · intro hdisjoint property hproperty hheld hcolumn
    by_contra hother
    have hmemDeclared := (hdeclared.mem_names_iff hnames).mpr ⟨property, hproperty, rfl, hheld⟩
    have hmemRest := (hdeclared.mem_undeclared_iff hfields).mpr ⟨hcolumn, hother⟩
    exact hdisjoint _ hmemDeclared _ hmemRest rfl
  · rintro hclash _ hmemDeclared _ hmemRest rfl
    obtain ⟨property, hproperty, rfl, hheld⟩ := (hdeclared.mem_names_iff hnames).mp hmemDeclared
    obtain ⟨hcolumn, hother⟩ := (hdeclared.mem_undeclared_iff hfields).mp hmemRest
    exact hother (hclash property hproperty hheld hcolumn)

end Model

/-- Contacts in their JSON form, with an address that a column of another name holds. -/
def contacts : Model Json where
  schema :=
    { name := "Contact"
      properties :=
        [{ name := "name", kind := .string, isPrimaryKey := true },
          { name := "email", column := some "email_address", kind := .string }] }
  serialize := .ok
  deserialize := .ok

/-- A contact with the telephone number, which is not declared. -/
def contactOfAda : Json :=
  .object [("email", .string "a@x.com"), ("name", .string "Ada"), ("phone", .string "12")]

theorem contacts_columns_nodup :
    ∃ columns clause, contacts.encode contactOfAda = .ok columns ∧
      Fields.names columns = ["name", "email_address", "phone"] ∧ (Fields.names columns).Nodup ∧
      contacts.merge "c" contactOfAda [] = .ok clause ∧ clause.writtenColumns.Nodup := by
  have hencode : contacts.encode contactOfAda =
      .ok [("name", .string "Ada"), ("email_address", .string "a@x.com"),
        ("phone", .string "12")] := by
    rfl
  obtain ⟨hiff, hwritten⟩ := contacts.encode_columns_nodup_iff rfl
    (by decide) (by decide) (by decide) hencode
  have hclash : ¬ Fields.Holds [("email", .string "a@x.com"), ("name", .string "Ada"),
      ("phone", .string "12")] "email_address" := by
    simp [Fields.Holds, Fields.get?_cons]
  have hnodup := hiff.mpr (by simp [contacts, PropertyOf.columnName, hclash])
  refine ⟨_, _, hencode, rfl, hnodup, rfl, ?_⟩
  exact (hwritten _ (.merge (show contacts.merge "c" contactOfAda [] = _ from rfl))).mpr hnodup

/-- A contact with two addresses: one is that of the property, and the other one bears the name of
    its column. -/
def contactOfBob : Json :=
  .object [("email", .string "a@x.com"), ("email_address", .string "b@x.com")]

/-- The column of the address is there twice, and assigned twice. -/
theorem contacts_columns_clash :
    (contacts.schema.properties.map (·.name)).Nodup ∧
      (contacts.schema.properties.map (·.columnName)).Nodup ∧
      contacts.encode contactOfBob =
        .ok [("email_address", .string "a@x.com"), ("email_address", .string "b@x.com")] ∧
      contacts.assign "c" contactOfBob =
        .ok [⟨⟨"c", "email_address"⟩, .value (.string "a@x.com")⟩,
          ⟨⟨"c", "email_address"⟩, .value (.string "b@x.com")⟩] := by
  refine ⟨by decide, by decide, ?_, ?_⟩
  · rfl
  · rfl

end GraphQuery
