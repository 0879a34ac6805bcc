import GraphQuery.Proofs.Record.Declared
import GraphQuery.Proofs.Record.Readable
import Mathlib.Data.List.Forall2

namespace GraphQuery

/-- A value is a vector of a dimension: a list of just as many numbers of single precision. -/
def Value.IsVector (dimension : Nat) (v : Value) : Prop :=
  ∃ xs : List Single, v = .list (xs.map .float) ∧ xs.length = dimension

/-- A document is what a vector of a dimension is stored from: a list of just as many items, none of
    which is absent. -/
def Json.IsMeasured (dimension : Nat) (json : Json) : Prop :=
  ∃ items, json = .array items ∧ items.length = dimension ∧ ∀ item ∈ items, item.isNull = false

namespace Kind

mutual

/-- Something holds of every vector of a kind, at whatever depth: of its dimension, of the part of a
    document that it is stored from, and of the part of the value that it is stored as. -/
def ForVectors (holds : Nat → Json → Value → Prop) (json : Json) (v : Value) : Kind → Prop
  | .vector dimension => holds dimension json v
  | .list inner => ∀ items, json = .array items →
    ∃ vs, v = .list vs ∧ List.Forall₂ (fun item v => ForVectors holds item v inner) items vs
  | .struct properties => ∀ fields : Fields Json, json = .object fields →
    ∃ entries, v = .map entries ∧ ForVectorsOfFields holds fields entries properties
  | _ => True

/-- It holds of the vectors of every property that has a column. Of two properties with one column
    the later one has it. -/
def ForVectorsOfFields (holds : Nat → Json → Value → Prop) (fields : Fields Json)
    (entries : Fields Value) : List (PropertyOf Kind) → Prop
  | [] => True
  | ⟨name, column, kind, _, _, isOptional⟩ :: properties =>
    (∀ json, fields.get? name = some json → (json.isNull && isOptional) = false →
      (∀ later ∈ properties, fields.Keeps later → later.columnName ≠ column.getD name) →
        ∃ v, entries.get? (column.getD name) = some v ∧ ForVectors holds json v kind) ∧
    ForVectorsOfFields holds fields entries properties

end

end Kind

namespace Record

/-- An item of a vector is stored as a number unless it is absent. -/
theorem encode_eq_float_iff {path : Path} {json : Json} {v : Value}
    (hencode : encode path json .float = .ok v) :
    (∃ x, v = .float x) ↔ json.isNull = false := by
  cases encodes_of_encode hencode with
  | null => simp [Json.isNull]
  | float hnumber _ => simp [Json.isNull_of_asDouble? hnumber]

/-- Items that are stored one by one are stored as numbers exactly if none of them is absent. -/
theorem exists_floats_iff {items : List Json} {vs : List Value}
    (hitems : List.Forall₂ (fun item v => (∃ x, v = .float x) ↔ item.isNull = false) items vs) :
    (∃ xs : List Single, vs = xs.map .float) ↔ ∀ item ∈ items, item.isNull = false := by
  induction hitems with
  | nil => exact ⟨fun _ => List.forall_mem_nil _, fun _ => ⟨[], rfl⟩⟩
  | cons hitem _ ih =>
    rw [List.forall_mem_cons, ← hitem, ← ih]
    constructor
    · rintro ⟨_ | ⟨x, xs⟩, heq⟩
      · cases heq
      · obtain ⟨rfl, rfl⟩ := List.cons.inj heq
        exact ⟨⟨x, rfl⟩, xs, rfl⟩
    · rintro ⟨⟨x, rfl⟩, xs, rfl⟩
      exact ⟨x :: xs, rfl⟩

/-- What is stored for a vector that is not absent is a list, with a number for each item that is
    not absent. -/
theorem exists_list_of_encode {dimension : Nat} {json : Json} {path : Path} {v : Value}
    (hencode : encode path json (.vector dimension) = .ok v) (hpresent : json.isNull = false) :
    ∃ items vs, json = .array items ∧ v = .list vs ∧
      List.Forall₂ (fun item v => (∃ x, v = .float x) ↔ item.isNull = false) items vs := by
  cases encodes_of_encode hencode with
  | null => cases hpresent
  | vector hitems =>
    exact ⟨_, _, rfl, rfl,
      forall₂_of_convertFrom (fun _ _ _ _ hitem => encode_eq_float_iff hitem) hitems⟩

theorem isVector_iff_of_encode {dimension : Nat} {json : Json} {path : Path} {v : Value}
    (hencode : encode path json (.vector dimension) = .ok v) :
    v.IsVector dimension ↔ json.IsMeasured dimension := by
  cases hnull : json.isNull with
  | true =>
    obtain rfl := Json.eq_null_of_isNull hnull
    cases hencode
    exact ⟨fun ⟨_, heq, _⟩ => (nomatch heq), fun ⟨_, heq, _⟩ => (nomatch heq)⟩
  | false =>
    obtain ⟨items, vs, rfl, rfl, hitems⟩ := exists_list_of_encode hencode hnull
    have hfloats := exists_floats_iff hitems
    have hlength := hitems.length_eq
    constructor
    · rintro ⟨xs, heq, rfl⟩
      cases heq
      exact ⟨items, rfl, by simpa using hlength, hfloats.mp ⟨xs, rfl⟩⟩
    · rintro ⟨_, heq, rfl, hmeasured⟩
      cases heq
      obtain ⟨xs, rfl⟩ := hfloats.mpr hmeasured
      exact ⟨xs, rfl, by simpa using hlength.symm⟩

/-- A column of a nested record is that of a field that is kept. -/
theorem exists_kept_of_mem_columns {fields : Fields Json} {properties : List Property} {path : Path}
    {columns : List (String × Value)} (hencode : encodeFields path fields properties = .ok columns)
    {column : String} (hmem : column ∈ Fields.names columns) :
    ∃ property ∈ properties, fields.Keeps property ∧ property.columnName = column := by
  induction properties generalizing columns with
  | nil =>
    cases hencode
    cases hmem
  | cons property properties ih =>
    have hlater : ∀ {columns}, encodeFields path fields properties = .ok columns →
        column ∈ Fields.names columns → ∃ other ∈ property :: properties,
          fields.Keeps other ∧ other.columnName = column := by
      intro columns hencode hmem
      obtain ⟨other, hother, hkept⟩ := ih hencode hmem
      exact ⟨other, List.mem_cons_of_mem _ hother, hkept⟩
    rcases encodeFields_cons_eq_ok hencode with
      ⟨_, hmore⟩ | ⟨json, v, more, hfield, hkept, _, hmore, rfl⟩
    · exact hlater hmore hmem
    · rcases List.mem_cons.mp hmem with rfl | hmem
      · exact ⟨property, List.mem_cons_self, ⟨json, hfield, hkept⟩, rfl⟩
      · exact hlater hmore hmem

mutual

/-- Wherever a vector is encoded, at whatever depth, it is stored as one exactly if it is
    measured. -/
theorem forVectors_of_encode : ∀ (kind : Kind) (json : Json) {path : Path} {v : Value},
    encode path json kind = .ok v →
      kind.ForVectors (fun dimension json v => v.IsVector dimension ↔ json.IsMeasured dimension)
        json v
  | .vector dimension, json, path, v, hencode => by
    rw [Kind.ForVectors]
    exact isVector_iff_of_encode hencode
  | .list inner, json, path, v, hencode => by
    rw [Kind.ForVectors]
    rintro items rfl
    cases encodes_of_encode hencode with
    | list hitems =>
      exact ⟨_, rfl, forall₂_of_convertFrom
        (fun item _ _ _ hitem => forVectors_of_encode inner item hitem) hitems⟩
  | .struct properties, json, path, v, hencode => by
    rw [Kind.ForVectors]
    rintro fields rfl
    cases encodes_of_encode hencode with
    | struct hcolumns => exact ⟨_, rfl, forVectors_of_encodeFields properties fields hcolumns []⟩
  | .string, _, _, _, _ | .bool, _, _, _, _ | .int _, _, _, _, _ | .float, _, _, _, _
  | .double, _, _, _, _ | .uuid, _, _, _, _ | .timestamp, _, _, _, _ | .date, _, _, _, _ => by
    simp [Kind.ForVectors]

theorem forVectors_of_encodeFields : ∀ (properties : List Property) (fields : Fields Json)
    {path : Path} {columns : List (String × Value)},
    encodeFields path fields properties = .ok columns → ∀ table : Fields Value,
      Kind.ForVectorsOfFields
        (fun dimension json v => v.IsVector dimension ↔ json.IsMeasured dimension) fields
        (columns.foldl (fun table entry => table.insert entry.1 entry.2) table) properties
  | [], fields, path, columns, _, table => trivial
  | ⟨name, column, kind, _, _, isOptional⟩ :: properties, fields, _, columns, hencode, table => by
    rw [Kind.ForVectorsOfFields]
    rcases encodeFields_cons_eq_ok hencode with
      ⟨hskipped, hmore⟩ | ⟨json, v, more, hfield, hkept, hvalue, hmore, rfl⟩
    · refine ⟨fun json hfield hkept => absurd ⟨json, hfield, hkept⟩ hskipped, ?_⟩
      exact forVectors_of_encodeFields properties fields hmore table
    · refine ⟨fun other hother _ hlast => ⟨v, ?_, ?_⟩, ?_⟩
      · -- No later entry takes the place of the one that is put into the table here.
        rw [List.foldl_cons, Fields.get?_foldl_insert_of_not_mem, Fields.get?_insert]
        · exact if_pos rfl
        · intro hmem
          obtain ⟨later, hlater, hkept, heq⟩ := exists_kept_of_mem_columns hmore hmem
          exact hlast later hlater hkept heq
      · obtain rfl : json = other := Option.some.inj (hfield.symm.trans hother)
        exact forVectors_of_encode kind json hvalue
      · exact forVectors_of_encodeFields properties fields hmore _

end

/-- A vector that is a property of its own has the declared length. -/
theorem of_encodeProperty {schema : Schema} {property : Property} {json : Json} {v : Value}
    (hencode : encodeProperty schema property json = .ok v) :
    encode (Path.field schema.name property.name) json property.kind = .ok v ∧
      ∀ dimension items, property.kind = .vector dimension → json = .array items →
        items.length = dimension := by
  unfold encodeProperty at hencode
  split at hencode
  · rename_i dimension items hdimension hitems
    split at hencode
    · cases hencode
    · rename_i hlength
      refine ⟨hencode, fun dimension' items' hkind hjson => ?_⟩
      rw [hkind] at hdimension
      rw [hjson] at hitems
      cases hdimension
      cases hitems
      exact not_not.mp hlength
  · rename_i hother
    refine ⟨hencode, fun dimension items hkind hjson => ?_⟩
    exact absurd (by rw [hjson]; rfl) (hother dimension items (by rw [hkind]; rfl))

/-- The first property of a name has a column if its field is not absent. -/
theorem Declared.exists_column {schema : Schema} {fields rest : Fields Json}
    {properties : List Property} {columns : List (String × Value)} {property : Property}
    {json : Json} (hcolumns : Declared schema fields properties columns rest)
    (hproperty : properties.find? (·.name = property.name) = some property)
    (hfield : fields.get? property.name = some json) (hpresent : json.isNull = false) :
    ∃ v, (property.columnName, v) ∈ columns ∧ encodeProperty schema property json = .ok v := by
  induction hcolumns with
  | nil => cases hproperty
  | @absent fields rest first properties columns habsent _ ih =>
    have hne : property.name ≠ first.name := by
      intro heq
      rw [(habsent json (heq ▸ hfield)).1] at hpresent
      cases hpresent
    rw [List.find?_cons_of_neg (by simpa using hne.symm)] at hproperty
    exact ih hproperty (by rwa [Fields.get?_erase_of_ne hne])
  | @present fields rest first properties columns other v hother _ hencode _ ih =>
    by_cases heq : first.name = property.name
    · rw [List.find?_cons_of_pos (by simpa using heq)] at hproperty
      obtain rfl : first = property := Option.some.inj hproperty
      obtain rfl : other = json := Option.some.inj (hother.symm.trans hfield)
      exact ⟨v, List.mem_cons_self, hencode⟩
    · rw [List.find?_cons_of_neg (by simpa using heq)] at hproperty
      obtain ⟨v, hmem, hencode⟩ :=
        ih hproperty (by rwa [Fields.get?_erase_of_ne (Ne.symm heq)])
      exact ⟨v, List.mem_cons_of_mem _ hmem, hencode⟩

end Record

/-- Every property whose field is not absent has a column. A vector that is the property itself is
    stored as a list of the declared length. At every place of a vector, the property itself or a
    part of it at whatever depth, the value is one of the declared dimension exactly if the document
    has as many items there, none of which is absent. -/
theorem Model.encode_vectors {α : Type} (model : Model α) {record : α} {fields : Fields Json}
    {columns : List (String × Value)} {property : Property} {json : Json}
    (hserialize : model.serialize record = .ok (.object fields))
    (hencode : model.encode record = .ok columns)
    (hproperty : model.schema.property? property.name = some property)
    (hfield : fields.get? property.name = some json) (hpresent : json.isNull = false) :
    ∃ v, (property.columnName, v) ∈ columns ∧
      (∀ dimension, property.kind = .vector dimension →
        ∃ vs, v = .list vs ∧ vs.length = dimension) ∧
      property.kind.ForVectors
        (fun dimension json v => v.IsVector dimension ↔ json.IsMeasured dimension) json v := by
  simp only [encode, hserialize, Json.asObject?, Except.bind_eq_ok, Prod.exists] at hencode
  obtain ⟨declared, rest, hdeclared, heq⟩ := hencode
  cases heq
  obtain ⟨v, hmem, hvalue⟩ :=
    (Record.declared_of_encodeDeclared hdeclared).exists_column hproperty hfield hpresent
  obtain ⟨hvalue, hlength⟩ := Record.of_encodeProperty hvalue
  refine ⟨v, List.mem_append_left _ hmem, fun dimension hkind => ?_,
    Record.forVectors_of_encode _ json hvalue⟩
  rw [hkind] at hvalue
  obtain ⟨items, vs, rfl, rfl, hitems⟩ := Record.exists_list_of_encode hvalue hpresent
  exact ⟨vs, rfl, hitems.length_eq ▸ hlength dimension items hkind rfl⟩

/-- The vectors that stand for the pictures of an album. -/
def pictures : Property :=
  { name := "pictures", kind := .list (.vector 2) }

/-- Albums in their JSON form, with a vector that stands for the cover and others for the
    pictures. -/
def albums : Model Json where
  schema :=
    { name := "Album"
      properties := [{ name := "cover", kind := .vector 2 }, pictures] }
  serialize := .ok
  deserialize := .ok

/-- A picture whose vector has the declared length is stored as one. -/
theorem albums_vectors :
    ∃ columns v, albums.encode (.object [("pictures", .array [.array [.real half, .real half]])]) =
        .ok columns ∧
      ("pictures", Value.list [v]) ∈ columns ∧ v.IsVector 2 := by
  have hencode : albums.encode (.object [("pictures", .array [.array [.real half, .real half]])]) =
      .ok [("pictures", .list [.list [.float half.val.narrow, .float half.val.narrow]])] := by
    rfl
  have hproperty : albums.schema.property? pictures.name = some pictures := by
    rfl
  have hpresent : (Json.array [.array [.real half, .real half]]).isNull = false := by
    rfl
  obtain ⟨v, hmem, _, hvectors⟩ := albums.encode_vectors rfl hencode hproperty rfl hpresent
  obtain ⟨vs, rfl, hitems⟩ := hvectors _ rfl
  cases hitems with
  | cons hitem hrest =>
    cases hrest
    refine ⟨_, _, hencode, hmem, hitem.mpr ⟨_, rfl, rfl, ?_⟩⟩
    simp [Json.isNull]

/-- An item of a vector that is absent is stored as absent, and the length of a vector within a list
    is not checked. -/
theorem albums_misshapen :
    albums.encode (.object [("cover", .array [.real half, .null])]) =
        .ok [("cover", .list [.float half.val.narrow, .null])] ∧
      ¬ (Value.list [.float half.val.narrow, .null]).IsVector 2 ∧
      albums.encode (.object [("pictures", .array [.array [.real half]])]) =
        .ok [("pictures", .list [.list [.float half.val.narrow]])] ∧
      ¬ (Value.list [.float half.val.narrow]).IsVector 2 := by
  refine ⟨rfl, ?_, rfl, ?_⟩
  · rintro ⟨_ | ⟨x, _ | ⟨y, xs⟩⟩, heq, _⟩ <;> cases heq
  · rintro ⟨xs, heq, hlength⟩
    have hone := congrArg List.length (Value.list.inj heq)
    simp [hlength] at hone

end GraphQuery
