import GraphQuery.Proofs.Record.Declared
import GraphQuery.Proofs.Record.Conversion
import GraphQuery.Proofs.Record.RoundTrip
import GraphQuery.Proofs.Record.Supplied
import GraphQuery.Proofs.Scope

namespace GraphQuery

/-- What is made in two steps can be made if both steps succeed. -/
theorem Except.exists_bind_eq_ok {ε α β : Type} {first : Except ε α} {next : α → Except ε β} :
    (∃ b, (first >>= next) = .ok b) ↔ ∃ a, first = .ok a ∧ ∃ b, next a = .ok b := by
  cases first <;> simp [bind, Except.bind]

theorem Except.exists_map_eq_ok {ε α β : Type} {first : Except ε α} (f : α → β) :
    (∃ b, (f <$> first) = .ok b) ↔ ∃ a, first = .ok a := by
  cases first <;> simp [Functor.map, Except.map]

namespace Record

/-- A value is what a document of a kind is encoded as: it is absent where the document is, and can
    otherwise be decoded exactly if nothing in the document is absent where it must not be. -/
structure Stands (kind : Kind) (json : Json) (v : Value) : Prop where
  isNull_eq : v.isNull = json.isNull
  exists_coerce_iff : json.isNull = false →
    ∀ path, (∃ out, coerce path v kind = .ok out) ↔ kind.NullsAllowed json

/-- The absent value stands for the absent document. -/
theorem Stands.null {kind : Kind} {json : Json} (hnull : json.isNull = true) :
    Stands kind json .null :=
  ⟨hnull.symm, fun hpresent => by rw [hnull] at hpresent; cases hpresent⟩

/-- For the kinds that have no parts there is nothing that could be absent. -/
theorem Stands.of_scalar {kind : Kind} {json : Json} {v : Value} {out : Json}
    (hjson : json.isNull = false) (hpresent : v.isNull = false)
    (hscalar : v.coerceScalar? kind = some out) : Stands kind json v := by
  refine ⟨hpresent.trans hjson.symm, fun _ path => ?_⟩
  cases kind with
  | list | struct | vector => cases hscalar
  | _ => simp [coerce, require, hscalar, Kind.NullsAllowed]

/-- A number in the range of single precision can be read back after it has been narrowed. -/
theorem exists_toFloat?_narrow {x : Double} (hrange : x.withinRange .single = true) :
    ∃ out, (Value.float x.narrow).toFloat? = some out := by
  have hnarrow : x.narrow.isFinite = true := Binary.isFinite_convert (by decide) hrange
  obtain ⟨_, hwide⟩ := Binary.withinRange_widen hnarrow
  have hagain : x.narrow.widen.narrow.isFinite = true := Binary.isFinite_convert (by decide) hwide
  have hback := (Binary.withinRange_widen hagain).1
  refine ⟨.real ⟨_, hback⟩, ?_⟩
  simp [Value.toFloat?, Value.asDouble?, hwide, JsonReal.ofDouble?, hback]

theorem Stands.exists_coercePresent_iff {kind : Kind} {json : Json} {v : Value}
    (hstands : Stands kind json v) (path : Path) :
    (∃ out, coercePresent (fun path item => coerce path item kind) path v = .ok out) ↔
      json.isNull = false ∧ kind.NullsAllowed json := by
  unfold coercePresent
  rw [hstands.isNull_eq]
  cases hnull : json.isNull with
  | true => simp
  | false => simpa using hstands.exists_coerce_iff hnull path

/-- The values of a list can be decoded together if each of them can. -/
theorem exists_coerceItems_iff {inner : Kind} {items : List Json} {vs : List Value}
    (hitems : List.Forall₂ (Stands inner) items vs) (path : Path) (position : Nat) :
    (∃ out, path.convertFrom (coercePresent fun path item => coerce path item inner) position vs =
        .ok out) ↔
      ∀ item ∈ items, item.isNull = false ∧ inner.NullsAllowed item := by
  induction hitems generalizing position with
  | nil => simp [Path.convertFrom]
  | cons hitem _ ih =>
    have hhead := hitem.exists_coercePresent_iff (path.item position)
    have hrest := ih (position + 1)
    rw [List.forall_mem_cons, ← hhead, ← hrest]
    simp [Path.convertFrom, Except.exists_bind_eq_ok, Except.exists_map_eq_ok]

/-- Columns hold what the fields of a record are encoded as, in the order of its properties. Only
    optional properties have no column: those whose field is missing or absent. -/
inductive Encoded (fields : Fields Json) : List Property → List (String × Value) → Prop
  | nil : Encoded fields [] []
  | absent {property : Property} {properties : List Property} {columns : List (String × Value)}
      (habsent : ∀ json, fields.get? property.name = some json → json.isNull = true)
      (hoptional : property.isOptional = true) (hcolumns : Encoded fields properties columns) :
      Encoded fields (property :: properties) columns
  | present {property : Property} {properties : List Property} {columns : List (String × Value)}
      {json : Json} {v : Value} (hfield : fields.get? property.name = some json)
      (hkept : (json.isNull && property.isOptional) = false) (hstands : Stands property.kind json v)
      (hcolumns : Encoded fields properties columns) :
      Encoded fields (property :: properties) ((property.columnName, v) :: columns)

namespace Encoded

variable {fields : Fields Json} {properties : List Property} {columns : List (String × Value)}

theorem names_sublist (hcolumns : Encoded fields properties columns) :
    (Fields.names columns).Sublist (properties.map (·.columnName)) := by
  induction hcolumns with
  | nil => exact List.Sublist.slnil
  | absent _ _ _ ih => exact ih.cons _
  | present _ _ _ _ ih => exact ih.cons_cons _

/-- No column is there twice. -/
theorem names_nodup (hcolumns : Encoded fields properties columns)
    (hdistinct : (properties.map (·.columnName)).Nodup) : (Fields.names columns).Nodup :=
  hcolumns.names_sublist.nodup hdistinct

/-- Reading the columns of a record succeeds exactly if no field is absent where it must not be. -/
theorem exists_coerceFields_iff (hcolumns : Encoded fields properties columns)
    (hdistinct : (properties.map (·.columnName)).Nodup) (path : String → Path)
    (value? : String → Option Value)
    (hvalue : ∀ name ∈ properties.map (·.columnName), value? name = Fields.get? columns name) :
    (∃ out, coerceFields path value? properties = .ok out) ↔
      Kind.NullsAllowedFields fields properties := by
  induction hcolumns generalizing value? with
  | nil => simp [coerceFields, Kind.NullsAllowedFields]
  | @absent property properties columns habsent hoptional hcolumns ih =>
    obtain ⟨hnew, hdistinct⟩ := List.nodup_cons.mp hdistinct
    have hnone : value? property.columnName = none := by
      rw [hvalue _ List.mem_cons_self, Fields.get?_eq_none_iff]
      exact fun hmem => hnew (hcolumns.names_sublist.subset hmem)
    have hrest := ih hdistinct value? fun name hname => hvalue name (List.mem_cons_of_mem _ hname)
    obtain ⟨name, column, kind, _, _, isOptional⟩ := property
    simp only [PropertyOf.columnName] at hnone hoptional habsent
    have hfield : ∀ json, fields.get? name = some json →
        if json.isNull then isOptional = true else kind.NullsAllowed json := by
      intro json hjson
      rw [if_pos (habsent json hjson)]
      exact hoptional
    rw [Kind.NullsAllowedFields, ← hrest, and_iff_right hfield]
    simp [coerceFields, hnone, hoptional, Except.exists_map_eq_ok]
  | @present property properties columns json v hfield hkept hstands _ ih =>
    obtain ⟨hnew, hdistinct⟩ := List.nodup_cons.mp hdistinct
    have hsome : value? property.columnName = some v := by
      rw [hvalue _ List.mem_cons_self, Fields.get?_cons, if_pos rfl]
    have hrest := ih hdistinct value? fun name hname => by
      have hne : name ≠ property.columnName := ne_of_mem_of_not_mem hname hnew
      rw [hvalue name (List.mem_cons_of_mem _ hname), Fields.get?_cons, if_neg hne]
    have hcoerce := hstands.exists_coerce_iff
    have hnull := hstands.isNull_eq
    obtain ⟨name, column, kind, _, _, isOptional⟩ := property
    simp only [PropertyOf.columnName] at hsome hfield hkept hcoerce
    rw [Kind.NullsAllowedFields, ← hrest]
    cases hjson : json.isNull with
    | true =>
      have hrequired : isOptional = false := by simpa [hjson] using hkept
      simp [coerceFields, hsome, hnull, hfield, hjson, hrequired, bind, Except.bind]
    | false =>
      have hread := hcoerce hjson (path name)
      simp [coerceFields, hsome, hnull, hfield, hjson, ← hread, Except.exists_bind_eq_ok,
        Except.exists_map_eq_ok]

end Encoded

/-- A property of a supplied record whose field is missing, or absent as it may be, is optional. -/
theorem isOptional_of_absent {fields : Fields Json} {property : Property}
    (habsent : ∀ json, fields.get? property.name = some json →
      json.isNull = true ∧ property.isOptional = true)
    (hsupplied : match fields.get? property.name with
      | none => property.isOptional = true
      | some json => property.kind.Supplied json) :
    property.isOptional = true := by
  cases hfield : fields.get? property.name with
  | none => rwa [hfield] at hsupplied
  | some json => exact (habsent json hfield).2

mutual

/-- A value that a supplied document of a kind without vectors is encoded as stands for it. -/
theorem stands_of_encode (kind : Kind) {path : Path} {json : Json} {v : Value}
    (hdistinct : kind.Distinct) (hvectorless : kind.Vectorless) (hsupplied : kind.Supplied json)
    (hencode : encode path json kind = .ok v) : Stands kind json v := by
  match kind, json, v, hdistinct, hvectorless, hsupplied, encodes_of_encode hencode with
  | _, _, _, _, _, _, .null _ => exact .null rfl
  | _, _, _, _, _, _, .string _ | _, _, _, _, _, _, .bool _ | _, _, _, _, _, _, .uuid _
  | _, _, _, _, _, _, .timestamp _ | _, _, _, _, _, _, .date _ => exact .of_scalar rfl rfl rfl
  | .int width, .integer n, _, _, _, _, .int hholds =>
    have hscalar : (Value.int ⟨width, n.val, hholds⟩).coerceScalar? (.int width) =
        some (.integer (SizedInt.toJson ⟨width, n.val, hholds⟩)) := by
      simp [Value.coerceScalar?, Value.toInteger?_int, Value.toInt?, SizedInt.ofInt?, hholds]
    exact .of_scalar rfl rfl hscalar
  | .float, _, _, _, _, _, .float hnumber hrange =>
    obtain ⟨out, hscalar⟩ := exists_toFloat?_narrow hrange
    exact .of_scalar (Json.isNull_of_asDouble? hnumber) rfl hscalar
  | .double, _, .double x, _, _, _, .double hnumber =>
    have hfinite := Json.isFinite_of_asDouble? hnumber
    have hscalar : (Value.double x).coerceScalar? .double = some (.real ⟨x, hfinite⟩) := by
      simp [Value.coerceScalar?, Value.asDouble?, JsonReal.ofDouble?, hfinite]
    exact .of_scalar (Json.isNull_of_asDouble? hnumber) rfl hscalar
  | .list inner, .array items, .list vs, hdistinct, hvectorless, hsupplied, .list hitems =>
    have hstands : List.Forall₂ (Stands inner) items vs :=
      forall₂_of_convertFrom (fun item hmem _ _ hencode =>
        stands_of_encode inner hdistinct hvectorless (hsupplied items rfl item hmem) hencode) hitems
    refine ⟨rfl, fun _ path => ?_⟩
    have hread := exists_coerceItems_iff hstands path 0
    simp [coerce, require, Value.asList?, Kind.NullsAllowed, Path.convertItems, ← hread,
      Except.exists_map_eq_ok]
  | .struct properties, .object fields, _, ⟨_, hnames, hparts⟩, hvectorless, hsupplied,
      .struct hfields =>
    have hcolumns := encoded_of_encodeFields properties fields hparts hvectorless
      (hsupplied fields rfl) hfields
    refine ⟨rfl, fun _ path => ?_⟩
    have hread := hcolumns.exists_coerceFields_iff hnames path.field _
      fun name _ => Fields.get?_ofList (hcolumns.names_nodup hnames) name
    simp [coerce, require, Value.asFields?, Kind.NullsAllowed, ← hread,
      Except.exists_map_eq_ok]

/-- The columns that the fields of a supplied record are encoded as hold them. -/
theorem encoded_of_encodeFields : ∀ (properties : List Property) (fields : Fields Json)
    {path : Path} {columns : List (String × Value)}, Kind.DistinctParts properties →
    Kind.VectorlessParts properties → Kind.SuppliedFields fields properties →
    encodeFields path fields properties = .ok columns → Encoded fields properties columns
  | [], fields, _, columns, _, _, _, hencode => by
    cases hencode
    exact .nil
  | ⟨name, column, kind, _, _, isOptional⟩ :: properties, fields, path, columns, hdistinct,
      hvectorless, hsupplied, hencode => by
    obtain ⟨hkind, hparts⟩ := hdistinct
    obtain ⟨hkindVectorless, hpartsVectorless⟩ := hvectorless
    obtain ⟨hfield, hfields⟩ := hsupplied
    have hrest : ∀ {columns}, encodeFields path fields properties = .ok columns →
        Encoded fields properties columns :=
      encoded_of_encodeFields properties fields hparts hpartsVectorless hfields
    rcases encodeFields_cons_eq_ok hencode with
      ⟨hskipped, hmore⟩ | ⟨json, v, more, hget, hkept, hvalue, hmore, rfl⟩
    · have habsent := Fields.absent_of_not_keeps hskipped
      exact .absent (fun json hget => (habsent json hget).1)
        (isOptional_of_absent habsent hfield) (hrest hmore)
    · rw [hget] at hfield
      exact .present hget hkept (stands_of_encode kind hkind hkindVectorless hfield hvalue)
        (hrest hmore)

end

/-- Where there is no vector whose length is to be checked, a property is encoded as its kind. -/
theorem encodeProperty_of_vectorless (schema : Schema) {property : Property} (json : Json)
    (hvectorless : property.kind.Vectorless) :
    encodeProperty schema property json =
      encode (Path.field schema.name property.name) json property.kind := by
  obtain ⟨name, column, kind, _, _, _⟩ := property
  unfold encodeProperty
  cases kind with
  | vector => cases hvectorless
  | _ => rfl

theorem Declared.encoded {schema : Schema} {fields left rest : Fields Json}
    {properties : List Property} {columns : List (String × Value)}
    (hcolumns : Declared schema left properties columns rest)
    (hnames : (properties.map (·.name)).Nodup) (hdistinct : Kind.DistinctParts properties)
    (hvectorless : Kind.VectorlessParts properties)
    (hsupplied : Kind.SuppliedFields fields properties)
    (hleft : ∀ name ∈ properties.map (·.name), left.get? name = fields.get? name) :
    Encoded fields properties columns := by
  induction hcolumns with
  | nil => exact .nil
  | absent habsent _ ih =>
    obtain ⟨hnew, hnames⟩ := List.nodup_cons.mp hnames
    obtain ⟨_, hparts⟩ := hdistinct
    obtain ⟨_, hpartsVectorless⟩ := hvectorless
    obtain ⟨hfield, hfields⟩ := hsupplied
    rw [hleft _ List.mem_cons_self] at habsent
    have hmore := ih hnames hparts hpartsVectorless hfields
      (Fields.get?_erase_of_agrees hnew hleft)
    exact .absent (fun json hget => (habsent json hget).1) (isOptional_of_absent habsent hfield)
      hmore
  | present hget hpresent hvalue _ ih =>
    obtain ⟨hnew, hnames⟩ := List.nodup_cons.mp hnames
    obtain ⟨hkind, hparts⟩ := hdistinct
    obtain ⟨hkindVectorless, hpartsVectorless⟩ := hvectorless
    obtain ⟨hfield, hfields⟩ := hsupplied
    rw [hleft _ List.mem_cons_self] at hget
    rw [hget] at hfield
    rw [encodeProperty_of_vectorless schema _ hkindVectorless] at hvalue
    have hmore := ih hnames hparts hpartsVectorless hfields
      (Fields.get?_erase_of_agrees hnew hleft)
    have hstands := stands_of_encode _ hkind hkindVectorless hfield hvalue
    exact .present hget (by rw [hpresent, Bool.false_and]) hstands hmore

/-- The columns that the declared properties of a record are encoded as hold its fields, and the
    fields that are left are those that no property names. -/
theorem encoded_of_encodeDeclared (schema : Schema) {fields left rest : Fields Json}
    {properties : List Property} {columns : List (String × Value)}
    (hnames : (properties.map (·.name)).Nodup) (hdistinct : Kind.DistinctParts properties)
    (hvectorless : Kind.VectorlessParts properties)
    (hsupplied : Kind.SuppliedFields fields properties)
    (hleft : ∀ name ∈ properties.map (·.name), left.get? name = fields.get? name)
    (hencode : encodeDeclared schema left properties = .ok (columns, rest)) :
    Encoded fields properties columns ∧
      ∀ name ∈ rest.names, name ∈ left.names ∧ name ∉ properties.map (·.name) := by
  have hcolumns := declared_of_encodeDeclared hencode
  refine ⟨hcolumns.encoded hnames hdistinct hvectorless hsupplied hleft, fun name hname => ?_⟩
  rw [hcolumns.rest_eq] at hname
  obtain ⟨field, hfield, rfl⟩ := List.mem_map.mp hname
  obtain ⟨hmem, hother⟩ := List.mem_filter.mp hfield
  exact ⟨List.mem_map_of_mem hmem, of_decide_eq_true hother⟩

end Record

namespace Model

variable {α : Type} (model : Model α)

/-- Where a record can be built from any document, reading it can only fail in one of its fields. -/
theorem exists_build_iff (hdeserialize : ∀ json, ∃ decoded, model.deserialize json = .ok decoded)
    (value? : String → Option Value) :
    (∃ decoded, model.build value? = .ok decoded) ↔
      ∃ out, Record.coerceFields id value? model.schema.properties = .ok out := by
  rw [build, Except.exists_bind_eq_ok]
  refine exists_congr fun out => and_iff_left ?_
  obtain ⟨decoded, hdecoded⟩ := hdeserialize (.object (Fields.ofList out))
  exact ⟨decoded, by simp only [hdecoded]; rfl⟩

/-- Where a record without vectors has a field for every property that is not optional and can be
    encoded, what it is encoded as can be decoded exactly if nothing in the record is absent where
    it must not be: no item of a list and no field of a property that is not optional. -/
theorem decode_ok_iff {record : α} {fields : Fields Json} {columns : List (String × Value)}
    (hserialize : model.serialize record = .ok (.object fields))
    (hdeserialize : ∀ json, ∃ decoded, model.deserialize json = .ok decoded)
    (hdistinct : model.schema.recordKind.Distinct)
    (hvectorless : model.schema.recordKind.Vectorless)
    (hdeclared : fields.names ⊆ model.schema.properties.map (·.name))
    (hsupplied : model.schema.recordKind.Supplied (.object fields))
    (hencode : model.encode record = .ok columns) (column : String) (nodeId : Option InternalId) :
    (∃ decoded,
      model.decode ⟨[column], [.node nodeId model.schema.name (Fields.ofList columns)]⟩ =
        .ok decoded) ↔
      model.schema.recordKind.NullsAllowed (.object fields) := by
  obtain ⟨hnames, hcolumnNames, hparts⟩ := hdistinct
  simp only [encode, hserialize, Json.asObject?, Except.bind_eq_ok, Prod.exists] at hencode
  obtain ⟨declared, rest, hencode, heq⟩ := hencode
  obtain ⟨hcolumns, hrest⟩ := Record.encoded_of_encodeDeclared model.schema hnames hparts
    hvectorless (hsupplied fields rfl) (fun _ _ => rfl) hencode
  -- Every field is declared, so that none is left to be encoded as it is.
  have hempty : rest = [] := Fields.eq_nil_of_excluded hdeclared hrest
  have hdeclaredColumns : columns = declared := by
    rw [hempty] at heq
    cases heq
    exact List.append_nil declared
  have hread := hcolumns.exists_coerceFields_iff hcolumnNames id (Fields.ofList columns).get?
    fun name _ => by
      rw [hdeclaredColumns]
      exact Fields.get?_ofList (hcolumns.names_nodup hcolumnNames) name
  rw [model.decode_node, model.exists_build_iff hdeserialize]
  simpa only [Schema.recordKind, Kind.NullsAllowed, Json.object.injEq, forall_eq'] using hread

end Model

/-- Places in their JSON form, with a list and an address. -/
def places : Model Json where
  schema :=
    { name := "Place"
      properties :=
        [{ name := "name", kind := .string },
          { name := "tags", kind := .list .string },
          { name := "address", kind := .struct
              [{ name := "city", kind := .string },
                { name := "zip", kind := .string, isOptional := true }] }] }
  serialize := .ok
  deserialize := .ok

/-- A museum with a single tag, in a city. -/
def museum (tag city : Json) : Fields Json :=
  [("address", .object [("city", city)]), ("name", .string "Louvre"), ("tags", .array [tag])]

theorem places_distinct : places.schema.recordKind.Distinct := by
  simp [Schema.recordKind, Kind.Distinct, Kind.DistinctParts, places, PropertyOf.columnName]

theorem places_vectorless : places.schema.recordKind.Vectorless := by
  simp [Schema.recordKind, Kind.Vectorless, Kind.VectorlessParts, places]

theorem museum_supplied (tag city : Json) :
    (museum tag city).names ⊆ places.schema.properties.map (·.name) ∧
      places.schema.recordKind.Supplied (.object (museum tag city)) := by
  constructor
  · simp [museum, Fields.names, places]
  · simp [Schema.recordKind, Kind.Supplied, Kind.SuppliedFields, places, museum, Fields.get?_cons]

theorem museum_decoded :
    ∃ columns decoded,
      places.encode (.object (museum (.string "art") (.string "Paris"))) = .ok columns ∧
        places.decode ⟨["p"], [.node none "Place" (Fields.ofList columns)]⟩ = .ok decoded := by
  let fields := museum (.string "art") (.string "Paris")
  obtain ⟨columns, hencode⟩ :=
    Except.exists_eq_ok (places.encode (.object fields)) (by decide +kernel)
  obtain ⟨hdeclared, hsupplied⟩ := museum_supplied (.string "art") (.string "Paris")
  have hallowed : places.schema.recordKind.NullsAllowed (.object fields) := by
    simp [Schema.recordKind, Kind.NullsAllowed, Kind.NullsAllowedFields, places, fields, museum,
      Fields.get?_cons, Json.isNull]
  obtain ⟨decoded, hdecode⟩ := (places.decode_ok_iff rfl (fun json => ⟨json, rfl⟩) places_distinct
    places_vectorless hdeclared hsupplied hencode "p" none).mpr hallowed
  exact ⟨columns, decoded, hencode, hdecode⟩

/-- Encoding does not see to it that an absent value can be decoded: the city of an address is not
    optional and an item of a list must not be absent, but both are accepted. -/
theorem museum_nullViolation :
    places.schema.recordKind.Distinct ∧ places.schema.recordKind.Vectorless ∧
      (∀ tag city, (museum tag city).names ⊆ places.schema.properties.map (·.name) ∧
        places.schema.recordKind.Supplied (.object (museum tag city))) ∧
      (∃ columns, places.encode (.object (museum (.string "art") .null)) = .ok columns ∧
        places.decode ⟨["p"], [.node none "Place" (Fields.ofList columns)]⟩ =
          .error (.nullViolation "address.city")) ∧
      ∃ columns, places.encode (.object (museum .null (.string "Paris"))) = .ok columns ∧
        places.decode ⟨["p"], [.node none "Place" (Fields.ofList columns)]⟩ =
          .error (.nullViolation "tags[0]") := by
  refine ⟨places_distinct, places_vectorless, museum_supplied, ⟨_, rfl, ?_⟩, _, rfl, ?_⟩
  · rfl
  · rfl

end GraphQuery
