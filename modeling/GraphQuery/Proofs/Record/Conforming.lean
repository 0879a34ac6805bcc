import GraphQuery.Proofs.Record.Normal
import GraphQuery.Record.Decode

namespace GraphQuery

namespace Kind

mutual

/-- At every level the properties of a structure have different names. -/
def DistinctNames : Kind → Prop
  | .list inner => DistinctNames inner
  | .struct properties => (properties.map (·.name)).Nodup ∧ DistinctNamesOfParts properties
  | _ => True

/-- The structures among the kinds of properties have properties of different names. -/
def DistinctNamesOfParts : List (PropertyOf Kind) → Prop
  | [] => True
  | ⟨_, _, kind, _, _, _⟩ :: properties => DistinctNames kind ∧ DistinctNamesOfParts properties

end

/-- A finite number of single precision, in the wider format of a document. -/
def ConformsSingle (json : Json) : Prop :=
  ∃ (x : Single) (real : JsonReal), x.isFinite = true ∧ real.val = x.widen ∧ json = .real real

mutual

/-- A document is one of a kind: integers are in the range of their width, floating-point numbers
    are finite, identifiers, moments and days are printed in the usual way, lists hold no absent
    value, vectors have their length, and objects have a field for each property and no others. -/
def Conforms (json : Json) : Kind → Prop
  | .string => ∃ s, json = .string s
  | .bool => ∃ b, json = .bool b
  | .int width => ∃ n, json = .integer n ∧ width.least ≤ n.val ∧ n.val ≤ width.greatest
  | .float => ConformsSingle json
  | .double => ∃ x, json = .real x ∧ x.val.isFinite = true
  | .uuid => ∃ u : Uuid, json = .string u.text
  | .timestamp => ∃ t : Timestamp, json = .string t.text
  | .date => ∃ d : Date, json = .string d.text
  | .list inner =>
    ∃ items, json = .array items ∧ ∀ item ∈ items, item ≠ .null ∧ Conforms item inner
  | .vector dimension =>
    ∃ items, json = .array items ∧ items.length = dimension ∧ ∀ item ∈ items, ConformsSingle item
  | .struct properties =>
    ∃ fields : Fields Json, json = .object fields ∧
      fields.names.Perm (properties.map (·.name)) ∧ ConformsFields fields properties

/-- The field of each property is the absent value, which only an optional property may have, or one
    of the kind of the property. -/
def ConformsFields (fields : Fields Json) : List (PropertyOf Kind) → Prop
  | [] => True
  | ⟨name, _, kind, _, _, isOptional⟩ :: properties =>
    (∃ json, fields.get? name = some json ∧
      ((json = .null ∧ isOptional = true) ∨ (json ≠ .null ∧ Conforms json kind))) ∧
    ConformsFields fields properties

end

theorem ConformsSingle.ne_null {json : Json} (hconforms : ConformsSingle json) :
    json ≠ .null := by
  obtain ⟨_, _, _, _, rfl⟩ := hconforms
  exact Json.noConfusion

/-- The absent value is of no kind. -/
theorem Conforms.ne_null {json : Json} {kind : Kind} (hconforms : Conforms json kind) :
    json ≠ .null := by
  rintro rfl
  cases kind with
  | float => exact ConformsSingle.ne_null hconforms rfl
  | _ => obtain ⟨_, hjson⟩ := hconforms; simp at hjson

/-- A number that single precision has exactly is finite in single precision too. -/
theorem CanonicalSingle.conforms {json : Json} (hcanonical : CanonicalSingle json) :
    ConformsSingle json := by
  obtain ⟨real, rfl, hkept⟩ := hcanonical
  have hfinite : real.val.narrow.widen.isFinite = true := by
    rw [hkept]
    exact real.isFinite
  exact ⟨real.val.narrow, real, Binary.isFinite_of_isFinite_convert hfinite, hkept.symm, rfl⟩

end Kind

namespace Record

/-- The kinds that have no parts. -/
theorem conforms_of_coerceScalar? {kind : Kind} {v : Value} {json : Json}
    (hscalar : v.coerceScalar? kind = some json) : kind.Conforms json := by
  have hcanonical : ∀ kind : Kind, kind.FourDigitYears v → v.coerceScalar? kind = some json →
      kind.Canonical json :=
    fun _ => canonical_of_coerceScalar?
  cases kind with
  | string => exact hcanonical .string trivial hscalar
  | bool => exact hcanonical .bool trivial hscalar
  | int width => exact hcanonical (.int width) trivial hscalar
  | float => exact (canonicalSingle_of_toFloat? hscalar).conforms
  | double =>
    obtain ⟨x, rfl⟩ := hcanonical .double trivial hscalar
    exact ⟨x, rfl, x.isFinite⟩
  | uuid =>
    obtain ⟨u, _, rfl⟩ := Option.map_eq_some_iff.mp hscalar
    exact ⟨u, rfl⟩
  | timestamp =>
    obtain ⟨t, _, rfl⟩ := Option.map_eq_some_iff.mp hscalar
    exact ⟨t, rfl⟩
  | date =>
    obtain ⟨d, _, rfl⟩ := Option.map_eq_some_iff.mp hscalar
    exact ⟨d, rfl⟩
  | list | struct | vector => cases hscalar

/-- The fields that properties are decoded to make up an object of the properties if each of them is
    one of its property. -/
theorem conforms_object {properties : List Property} {path : String → Path}
    {value? : String → Option Value} {entries : List (String × Json)}
    (hnames : (properties.map (·.name)).Nodup)
    (hcoerce : coerceFields path value? properties = .ok entries)
    (hfields : (∀ entry ∈ entries, (Fields.ofList entries).get? entry.1 = some entry.2) →
      Kind.ConformsFields (Fields.ofList entries) properties) :
    (Kind.struct properties).Conforms (.object (Fields.ofList entries)) := by
  rw [← names_of_coerceFields hcoerce] at hnames
  refine ⟨Fields.ofList entries, rfl, ?_, hfields fun entry hentry => ?_⟩
  · rw [← names_of_coerceFields hcoerce]
    exact Fields.names_ofList_perm hnames
  · rw [Fields.get?_ofList hnames]
    exact Fields.get?_of_mem hnames hentry

mutual

/-- What a value is decoded to as one of a kind is a document of this kind. -/
theorem conforms_of_coerce (kind : Kind) {path : Path} {v : Value} {json : Json}
    (hdistinct : kind.DistinctNames) (hcoerce : coerce path v kind = .ok json) :
    kind.Conforms json := by
  match kind, json, hdistinct, coerce_eq_ok_iff.mp hcoerce with
  | _, _, _, .scalar hscalar => exact conforms_of_coerceScalar? hscalar
  | .vector dimension, .array outs, _, .vector _ hdimension hitems =>
    refine ⟨outs, rfl, (length_of_convertFrom hitems).trans hdimension, ?_⟩
    refine forall_of_convertFrom (fun item _ path out hout => ?_) hitems
    exact (canonicalSingle_of_toFloat? (require_eq_ok.mp (coercePresent_eq_ok hout))).conforms
  | .list inner, .array outs, hdistinct, .list _ hitems =>
    refine ⟨outs, rfl, forall_of_convertFrom (fun item _ path out hout => ?_) hitems⟩
    have hconforms := conforms_of_coerce inner hdistinct (coercePresent_eq_ok hout)
    exact ⟨hconforms.ne_null, hconforms⟩
  | .struct properties, _, ⟨hnames, hparts⟩, .struct _ hentries =>
    exact conforms_object hnames hentries
      (conformsFields_of_coerceFields properties _ hparts hentries)

/-- What the columns of properties are decoded to are fields of the kinds of the properties. -/
theorem conformsFields_of_coerceFields : ∀ (properties : List Property) {path : String → Path}
    {value? : String → Option Value} {entries : List (String × Json)} (fields : Fields Json),
    Kind.DistinctNamesOfParts properties → coerceFields path value? properties = .ok entries →
    (∀ entry ∈ entries, fields.get? entry.1 = some entry.2) →
    Kind.ConformsFields fields properties
  | [], _, _, _, _, _, _, _ => trivial
  | ⟨name, column, kind, _, _, isOptional⟩ :: properties, path, value?, entries, fields,
      hdistinct, hcoerce, hentries => by
    obtain ⟨hkind, hparts⟩ := hdistinct
    obtain ⟨json, more, rfl, hmore, hjson⟩ := coerceFields_cons_eq_ok hcoerce
    have hget : fields.get? name = some json := hentries (name, json) List.mem_cons_self
    refine ⟨⟨json, hget, ?_⟩, conformsFields_of_coerceFields properties fields hparts hmore
      fun entry hentry => hentries entry (List.mem_cons_of_mem _ hentry)⟩
    rcases hjson with hnull | ⟨v, _, hjson⟩
    · exact .inl hnull
    · have hconforms := conforms_of_coerce kind hkind hjson
      exact .inr ⟨hconforms.ne_null, hconforms⟩

end

/-- Where the values of a record's columns are found in a row. -/
def source (schema : Schema) (row : Row) : String → Option Value :=
  match entity? schema row with
  | some fields => fields.get?
  | none => row.get?

/-- The object that a row is turned into before a record is built from it. -/
def document (schema : Schema) (row : Row) : Except DecodeError Json := do
  return .object (Fields.ofList (← coerceFields id (source schema row) schema.properties))

end Record

variable {α : Type}

/-- Nothing of a row matters but where the values of the columns are found. -/
theorem Model.decode_eq_build (model : Model α) (row : Row) :
    model.decode row = model.build (Record.source model.schema row) := by
  rw [decode, Record.source]
  cases Record.entity? model.schema row <;> rfl

theorem Model.decode_eq (model : Model α) (row : Row) :
    model.decode row = (do
      let json ← Record.document model.schema row
      (model.deserialize json).mapError (.unbuildable model.schema.name)) := by
  rw [decode_eq_build, build, Record.document]
  cases Record.coerceFields id (Record.source model.schema row) model.schema.properties with
  | error error => rfl
  | ok entries =>
    simp only [Except.ok_bind, pure_bind]
    cases model.deserialize (.object (Fields.ofList entries)) <;> rfl

/-- Decoding is sound for the types of a schema: a record is built from the document of a row, and
    from nothing else, and this document is of the kind that the schema declares. -/
theorem decode_conforms (model : Model α) (row : Row)
    (hdistinct : model.schema.recordKind.DistinctNames) :
    model.decode row = (do
      let json ← Record.document model.schema row
      (model.deserialize json).mapError (.unbuildable model.schema.name)) ∧
      ∀ json, Record.document model.schema row = .ok json →
        model.schema.recordKind.Conforms json := by
  refine ⟨model.decode_eq row, fun json hdocument => ?_⟩
  obtain ⟨entries, hentries, hjson⟩ := Except.bind_eq_ok.mp hdocument
  cases hjson
  obtain ⟨hnames, hparts⟩ := hdistinct
  exact Record.conforms_object hnames hentries
    (Record.conformsFields_of_coerceFields _ _ hparts hentries)

/-- Measurements as they are stored, with the place of the sensor and what it saw. -/
def measurements : Model Json where
  schema :=
    { name := "Measurement"
      properties :=
        [{ name := "id", kind := .uuid, isPrimaryKey := true },
          { name := "takenOn", column := some "taken_on", kind := .date },
          { name := "level", kind := .int .uint8 },
          { name := "place", kind := .struct
              [{ name := "x", kind := .int .int32 },
                { name := "note", kind := .string, isOptional := true }] },
          { name := "image", kind := .vector 2 }] }
  serialize := .ok
  deserialize := .ok

/-- A measurement as a node: the identifier is in capitals, the level is a floating-point number,
    and the place has no note. -/
def measurement : Row where
  columns := ["m"]
  cells :=
    [.node none "Measurement"
      [("id", .string "6F1C1C2E-8B7A-4D4E-9F3A-2B1C0D9E8F7A"),
        ("image", .list [.double (.ofInt 3), .int ⟨.int64, 4, by decide⟩]),
        ("level", .double (.ofInt 200)), ("place", .map [("x", .int ⟨.int64, -7, by decide⟩)]),
        ("taken_on", .string "2024-02-29")]]

theorem measurement_conforms :
    ∃ json, measurements.decode measurement = .ok json ∧
      measurements.schema.recordKind.Conforms json := by
  have hdistinct : measurements.schema.recordKind.DistinctNames := by
    simp [measurements, Schema.recordKind, Kind.DistinctNames, Kind.DistinctNamesOfParts]
  obtain ⟨json, hdocument⟩ :=
    Except.exists_eq_ok (Record.document measurements.schema measurement) (by decide +kernel)
  obtain ⟨hdecode, hconforms⟩ := decode_conforms measurements measurement hdistinct
  refine ⟨json, ?_, hconforms json hdocument⟩
  rw [hdecode, hdocument]
  rfl

end GraphQuery
