import GraphQuery.Proofs.Binary.Exact
import GraphQuery.Proofs.Record.Columns
import GraphQuery.Record.Decode

namespace GraphQuery

namespace Record

/-- Items that can each be encoded and read back can be so together. -/
theorem exists_convertFrom (encodeItem : Path → Json → Except QueryError Value)
    (coerceItem : Path → Value → Except DecodeError Json) (back : Json → Json) {items : List Json}
    (hitems : ∀ item ∈ items, ∃ v, v.isNull = false ∧ (∀ path, encodeItem path item = .ok v) ∧
      ∀ path, coerceItem path v = .ok (back item)) :
    ∃ vs, vs.length = items.length ∧
      (∀ path position, Path.convertFrom path encodeItem position items = .ok vs) ∧
      ∀ path position, Path.convertFrom path (coercePresent coerceItem) position vs =
        .ok (items.map back) := by
  induction items with
  | nil => exact ⟨[], rfl, fun _ _ => rfl, fun _ _ => rfl⟩
  | cons item items ih =>
    obtain ⟨v, hpresent, hencode, hcoerce⟩ := hitems item List.mem_cons_self
    obtain ⟨vs, hlength, hencodes, hcoerces⟩ :=
      ih fun other hother => hitems other (List.mem_cons_of_mem _ hother)
    refine ⟨v :: vs, congrArg Nat.succ hlength, fun path position => ?_, fun path position => ?_⟩
    · simp [Path.convertFrom, hencode, hencodes]
    · simp [Path.convertFrom, coercePresent, hpresent, hcoerce, hcoerces]

theorem withinRange_of_kept {x : JsonReal} (hkept : x.val.narrow.widen = x.val) :
    x.val.withinRange .single = true :=
  Binary.withinRange_of_convert_convert (by decide) (by decide) x.isFinite hkept

/-- A number that single precision has exactly is read as itself. -/
theorem toFloat?_of_kept {v : Value} {x : JsonReal} (hnumber : v.asDouble? = some x.val)
    (hkept : x.val.narrow.widen = x.val) : v.toFloat? = some (.real x) := by
  simp [Value.toFloat?, hnumber, withinRange_of_kept hkept, hkept, JsonReal.ofDouble?, x.isFinite]

/-- A number that single precision has exactly passes the check of the range, and narrowing and
    widening it loses nothing. -/
theorem exists_element {json : Json} (hcanonical : Kind.CanonicalSingle json) :
    ∃ v, v.isNull = false ∧ (∀ path, encodeElement path json = .ok v) ∧ v.toFloat? = some json := by
  obtain ⟨x, rfl, hkept⟩ := hcanonical
  refine ⟨.float x.val.narrow, rfl, fun path => ?_, toFloat?_of_kept (congrArg some hkept) hkept⟩
  simp [encodeElement, encodeFloat, expect, Json.isNull, Json.asDouble?, withinRange_of_kept hkept]

/-- For the kinds that have no parts, decoding is the conversion of the value alone. -/
theorem Carries.of_scalar {kind : Kind} {json : Json} {v : Value}
    (hcanonical : kind.Canonical json) (hpresent : v.isNull = false)
    (hencode : ∀ path, encode path json kind = .ok v) (hscalar : v.coerceScalar? kind = some json) :
    Carries kind json v := by
  refine ⟨hcanonical, hpresent, hencode, fun path => ?_⟩
  cases kind with
  | list | struct | vector => cases hscalar
  | _ => simp only [coerce, require, hscalar, Kind.withNulls]

/-- The kinds whose documents are texts that spell something: what is read from a text in its usual
    spelling is written as the same text again. -/
theorem exists_carries_text {α : Type} {kind : Kind} {word s : String} {read? : String → Option α}
    {text : α → String} (value : α → Value) (htext : (read? s).map text = some s)
    (hcanonical : kind.Canonical (.string s)) (hpresent : ∀ a, (value a).isNull = false)
    (hencode : ∀ path, encode path (.string s) kind =
      expectText path word s ((read? s).map value))
    (hscalar : ∀ a, (value a).coerceScalar? kind = some (.string (text a))) :
    ∃ v, Carries kind (.string s) v := by
  obtain ⟨a, hread, hspelled⟩ := Option.map_eq_some_iff.mp htext
  refine ⟨value a, .of_scalar hcanonical (hpresent a) (fun path => ?_) ?_⟩
  · rw [hencode, hread]
    rfl
  · rw [hscalar, hspelled]

mutual

/-- Every canonical document of a kind is carried by a value. -/
theorem exists_carries : ∀ (kind : Kind) (json : Json), kind.Distinct → kind.Canonical json →
    ∃ v, Carries kind json v
  | .string, json, _, hcanonical => by
    obtain ⟨s, rfl⟩ := hcanonical
    exact ⟨.string s, .of_scalar ⟨s, rfl⟩ rfl (fun _ => rfl) rfl⟩
  | .bool, json, _, hcanonical => by
    obtain ⟨b, rfl⟩ := hcanonical
    exact ⟨.bool b, .of_scalar ⟨b, rfl⟩ rfl (fun _ => rfl) rfl⟩
  | .int width, json, _, hcanonical => by
    obtain ⟨n, rfl, hholds⟩ := hcanonical
    refine ⟨.int ⟨width, n.val, hholds⟩, .of_scalar ⟨n, rfl, hholds⟩ rfl (fun path => ?_) ?_⟩
    · simp [encode, encodeInt, expect, Json.isNull, Json.asInt?, SizedInt.ofInt?, hholds]
    · simp [Value.coerceScalar?, Value.toInteger?_int, Value.toInt?, SizedInt.ofInt?, hholds,
        SizedInt.toJson]
  | .float, json, _, hcanonical => by
    obtain ⟨v, hpresent, hencode, hfloat⟩ := exists_element hcanonical
    refine ⟨v, .of_scalar hcanonical hpresent (fun path => ?_) hfloat⟩
    simp [encode, hcanonical.isNull_eq_false, hencode]
  | .double, json, _, hcanonical => by
    obtain ⟨x, rfl⟩ := hcanonical
    refine ⟨.double x.val, .of_scalar ⟨x, rfl⟩ rfl (fun _ => rfl) ?_⟩
    simp [Value.coerceScalar?, Value.asDouble?, JsonReal.ofDouble?, x.isFinite]
  | .uuid, json, _, hcanonical => by
    obtain ⟨s, rfl, htext⟩ := hcanonical
    exact exists_carries_text .uuid htext ⟨s, rfl, htext⟩ (fun _ => rfl) (fun _ => rfl)
      fun _ => rfl
  | .timestamp, json, _, hcanonical => by
    obtain ⟨s, rfl, htext⟩ := hcanonical
    exact exists_carries_text .timestamp htext ⟨s, rfl, htext⟩ (fun _ => rfl) (fun _ => rfl)
      fun _ => rfl
  | .date, json, _, hcanonical => by
    obtain ⟨s, rfl, htext⟩ := hcanonical
    exact exists_carries_text .date htext ⟨s, rfl, htext⟩ (fun _ => rfl) (fun _ => rfl)
      fun _ => rfl
  | .list inner, json, hdistinct, hcanonical => by
    obtain ⟨items, rfl, hitems⟩ := hcanonical
    obtain ⟨vs, _, hencode, hcoerce⟩ := exists_convertFrom
      (fun path item => encode path item inner) (fun path item => coerce path item inner)
      inner.withNulls fun item hitem => by
        obtain ⟨v, hcarries⟩ := exists_carries inner item hdistinct (hitems item hitem)
        exact ⟨v, hcarries.present, hcarries.encode_eq, hcarries.coerce_eq⟩
    refine ⟨.list vs, ⟨items, rfl, hitems⟩, rfl, fun path => ?_, fun path => ?_⟩
    · simp [encode, expect, Json.isNull, Json.asArray?, Path.convertItems, hencode]
    · simp [coerce, require, Value.asList?, Path.convertItems, hcoerce, Kind.withNulls]
  | .vector dimension, json, _, hcanonical => by
    obtain ⟨items, rfl, hdimension, hitems⟩ := hcanonical
    obtain ⟨vs, hlength, hencode, hcoerce⟩ := exists_convertFrom encodeElement coerceElement id
      fun item hitem => by
        obtain ⟨v, hpresent, hencode, hfloat⟩ := exists_element (hitems item hitem)
        exact ⟨v, hpresent, hencode, fun path => by simp [coerceElement, require, hfloat]⟩
    refine ⟨.list vs, ⟨items, rfl, hdimension, hitems⟩, rfl, fun path => ?_, fun path => ?_⟩
    · simp [encode, expect, Json.isNull, Json.asArray?, Path.convertItems, hencode]
    · simp [coerce, require, Value.asList?, Path.convertItems, hcoerce, hlength, hdimension,
        Kind.withNulls]
  | .struct properties, json, hdistinct, hcanonical => by
    obtain ⟨fields, rfl, hdeclared, hfields⟩ := hcanonical
    obtain ⟨hnames, hcolumnNames, hparts⟩ := hdistinct
    obtain ⟨columns, hcolumns⟩ := exists_columns properties fields hparts hfields
    refine ⟨.map (Fields.ofList columns), ⟨fields, rfl, hdeclared, hfields⟩, rfl,
      fun path => ?_, fun path => ?_⟩
    · simp [encode, expect, Json.isNull, Json.asObject?, hcolumns.encodeFields_eq path]
    · have hcoerce := hcolumns.coerceFields_eq hcolumnNames path.field
        (Fields.ofList columns).get?
        fun name _ => Fields.get?_ofList (hcolumns.names_nodup hcolumnNames) name
      simp [coerce, require, Value.asFields?, hcoerce, Kind.withNulls]

/-- The fields of a canonical record are held by columns. -/
theorem exists_columns : ∀ (properties : List Property) (fields : Fields Json),
    Kind.DistinctParts properties → Kind.CanonicalFields fields properties →
    ∃ columns, Columns fields properties columns
  | [], fields, _, _ => ⟨[], .nil⟩
  | ⟨name, column, kind, _, _, isOptional⟩ :: properties, fields, hdistinct, hcanonical => by
    obtain ⟨hkind, hparts⟩ := hdistinct
    obtain ⟨hfield, hfields⟩ := hcanonical
    obtain ⟨columns, hcolumns⟩ := exists_columns properties fields hparts hfields
    cases hget : fields.get? name with
    | none =>
      rw [hget] at hfield
      exact ⟨columns, .absent (fun json hjson => by simp [hget] at hjson) hfield hcolumns⟩
    | some json =>
      rw [hget] at hfield
      obtain ⟨hnull, hoptional⟩ | hjson := hfield
      · refine ⟨columns, .absent (fun other hother => ?_) hoptional hcolumns⟩
        obtain rfl : json = other := Option.some.inj (hget.symm.trans hother)
        exact hnull
      · obtain ⟨v, hcarries⟩ := exists_carries kind json hkind hjson
        exact ⟨_, .present hget hcarries hcolumns⟩

end

end Record

namespace Model

variable {α : Type} (model : Model α)

/-- A row whose only cell is a node labelled with the schema's name is built from the properties of
    that node. -/
theorem decode_node (column : String) (nodeId : Option InternalId) (properties : Fields Value) :
    model.decode ⟨[column], [.node nodeId model.schema.name properties]⟩ =
      model.build properties.get? := by
  simp [decode, Record.entity?, Record.entities, Row.entries, Value.label?, Value.asFields?]

/-- Encoding a canonical record succeeds. Decoding a node that has the columns gives what the record
    with its missing fields put in stands for. -/
theorem decode_encode {record : α} {fields : Fields Json}
    (hserialize : model.serialize record = .ok (.object fields))
    (hdistinct : model.schema.recordKind.Distinct)
    (hcanonical : model.schema.recordKind.Canonical (.object fields))
    (column : String) (nodeId : Option InternalId) :
    ∃ columns, model.encode record = .ok columns ∧
      model.decode ⟨[column], [.node nodeId model.schema.name (Fields.ofList columns)]⟩ =
        (model.deserialize (model.schema.recordKind.withNulls (.object fields))).mapError
          (.unbuildable model.schema.name) := by
  obtain ⟨hnames, hcolumnNames, hparts⟩ := hdistinct
  obtain ⟨_, heq, hdeclared, hfields⟩ := hcanonical
  cases heq
  obtain ⟨columns, hcolumns⟩ :=
    Record.exists_columns model.schema.properties fields hparts hfields
  obtain ⟨rest, hencode, hrest⟩ :=
    hcolumns.encodeDeclared_eq model.schema hnames fields fun _ _ => rfl
  -- Every field is declared, so that none is left to be encoded as it is.
  have hempty : rest = [] := Fields.eq_nil_of_excluded hdeclared hrest
  have hcoerce := hcolumns.coerceFields_eq hcolumnNames id (Fields.ofList columns).get?
    fun name _ => Fields.get?_ofList (hcolumns.names_nodup hcolumnNames) name
  refine ⟨columns, ?_, ?_⟩
  · simp [encode, hserialize, Json.asObject?, hencode, hempty, Record.encodeUndeclared]
  · rw [decode_node, build, hcoerce, Except.ok_bind]
    simp only [Schema.recordKind, Kind.withNulls]
    cases model.deserialize (.object (Fields.ofList (Kind.fieldsWithNulls fields _))) <;> rfl

end Model

/-- Accounts in their JSON form, with a property that another column holds and optional ones at two
    levels. -/
def accounts : Model Json where
  schema :=
    { name := "Account"
      properties :=
        [{ name := "id", kind := .uuid, isPrimaryKey := true },
          { name := "handle", column := some "user_handle", kind := .string },
          { name := "age", kind := .int .int32 },
          { name := "embedding", kind := .vector 2 },
          { name := "tags", kind := .list .string },
          { name := "address", kind := .struct
              [{ name := "city", kind := .string },
                { name := "zip", column := some "postal_code", kind := .string,
                  isOptional := true }] },
          { name := "status", kind := .string, isOptional := true }] }
  serialize := .ok
  deserialize := .ok

/-- A half, as a number in JSON. -/
def half : JsonReal :=
  ⟨.signed false ⟨0x3fe0000000000000, by decide⟩, by decide⟩

/-- An account without a status, and with an address that has no code. -/
def grace : Fields Json :=
  [("address", .object [("city", .string "Paris")]),
    ("age", .integer ⟨36, by decide⟩),
    ("embedding", .array [.real half, .real half]),
    ("handle", .string "grace"),
    ("id", .string "6f1c1c2e-8b7a-4d4e-9f3a-2b1c0d9e8f7a"),
    ("tags", .array [.string "admin", .string "staff"])]

theorem accounts_decode_encode :
    ∃ columns, accounts.encode (.object grace) = .ok columns ∧
      accounts.decode ⟨["p"], [.node none "Account" (Fields.ofList columns)]⟩ =
        .ok (.object
          [("address", .object [("city", .string "Paris"), ("zip", .null)]),
            ("age", .integer ⟨36, by decide⟩),
            ("embedding", .array [.real half, .real half]),
            ("handle", .string "grace"),
            ("id", .string "6f1c1c2e-8b7a-4d4e-9f3a-2b1c0d9e8f7a"),
            ("status", .null),
            ("tags", .array [.string "admin", .string "staff"])]) := by
  have hdistinct : accounts.schema.recordKind.Distinct := by
    simp [Schema.recordKind, Kind.Distinct, Kind.DistinctParts, accounts, PropertyOf.columnName]
  have hid : (Uuid.read? "6f1c1c2e-8b7a-4d4e-9f3a-2b1c0d9e8f7a").map Uuid.text =
      some "6f1c1c2e-8b7a-4d4e-9f3a-2b1c0d9e8f7a" := by decide +kernel
  have hage : IntKind.int32.Holds 36 := by decide
  have hhalf : Kind.CanonicalSingle (.real half) := ⟨half, rfl, by decide +kernel⟩
  have hcanonical : accounts.schema.recordKind.Canonical (.object grace) := by
    refine ⟨grace, rfl, by decide, ?_⟩
    simp [Kind.CanonicalFields, Kind.Canonical, accounts, grace, Fields.get?_cons, Fields.names,
      -Option.map_eq_some_iff, hid, hage, hhalf]
  exact accounts.decode_encode rfl hdistinct hcanonical "p" none

end GraphQuery
