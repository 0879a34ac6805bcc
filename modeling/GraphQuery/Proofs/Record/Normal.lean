import GraphQuery.Proofs.Record.Complete
import GraphQuery.Proofs.Record.Readable
import GraphQuery.Proofs.Time.Timestamp
import GraphQuery.Proofs.Uuid

namespace GraphQuery

namespace Kind

mutual

/-- Every moment that decoding a value as one of a kind comes across, be it spelled as a text or
    not, lies in a year of four digits. -/
def FourDigitYears (v : Value) : Kind → Prop
  | .timestamp => ∀ t, v.toTimestamp? = some t → 0 ≤ t.date.year ∧ t.date.year ≤ 9999
  | .list inner => ∀ items, v.asList? = some items → ∀ item ∈ items, FourDigitYears item inner
  | .struct properties => ∀ fields, v.asFields? = some fields →
    FourDigitYearsColumns fields properties
  | _ => True

/-- The columns of properties hold no other years. -/
def FourDigitYearsColumns (fields : Fields Value) : List (PropertyOf Kind) → Prop
  | [] => True
  | ⟨name, column, kind, _, _, _⟩ :: properties =>
    (∀ v, fields.get? (column.getD name) = some v → FourDigitYears v kind) ∧
      FourDigitYearsColumns fields properties

end

theorem complete_null (kind : Kind) : kind.Complete .null := by
  cases kind with
  | list | struct =>
    intro _ hjson
    cases hjson
  | _ => trivial

end Kind

namespace Record

/-- A number that was rounded to single precision is one that single precision has exactly. -/
theorem canonicalSingle_of_toFloat? {v : Value} {json : Json} (hfloat : v.toFloat? = some json) :
    Kind.CanonicalSingle json := by
  simp only [Value.toFloat?, Option.bind_eq_bind, Option.bind_eq_some_iff] at hfloat
  obtain ⟨x, _, hjson⟩ := hfloat
  split at hjson
  · obtain ⟨rounded, hrounded, rfl⟩ := Option.map_eq_some_iff.mp hjson
    unfold JsonReal.ofDouble? at hrounded
    split at hrounded
    · rename_i hwide
      cases hrounded
      refine ⟨_, rfl, ?_⟩
      have hnarrow : x.narrow.isFinite = true := Binary.isFinite_of_isFinite_convert hwide
      have hback : x.narrow.widen.narrow = x.narrow :=
        Binary.convert_convert (by decide) (by decide) hnarrow hwide
      exact congrArg Binary.widen hback
    · cases hrounded
  · cases hjson

/-- The kinds that have no parts: what decoding writes is what encoding reads. -/
theorem canonical_of_coerceScalar? {kind : Kind} {v : Value} {json : Json}
    (hyears : kind.FourDigitYears v) (hscalar : v.coerceScalar? kind = some json) :
    kind.Canonical json := by
  cases kind with
  | string =>
    obtain ⟨s, _, rfl⟩ := Option.map_eq_some_iff.mp hscalar
    exact ⟨s, rfl⟩
  | bool =>
    obtain ⟨b, _, rfl⟩ := Option.map_eq_some_iff.mp hscalar
    exact ⟨b, rfl⟩
  | int width =>
    rw [Value.coerceScalar?, Value.toInteger?_int, Option.bind_eq_some_iff] at hscalar
    obtain ⟨n, _, hn⟩ := hscalar
    obtain ⟨sized, hsized, rfl⟩ := Option.map_eq_some_iff.mp hn
    unfold SizedInt.ofInt? at hsized
    split at hsized
    · rename_i hholds
      cases hsized
      exact ⟨_, rfl, hholds⟩
    · cases hsized
  | float => exact canonicalSingle_of_toFloat? hscalar
  | double =>
    simp only [Value.coerceScalar?, Option.bind_eq_bind, Option.bind_eq_some_iff] at hscalar
    obtain ⟨_, _, x, _, hjson⟩ := hscalar
    cases hjson
    exact ⟨x, rfl⟩
  | uuid =>
    obtain ⟨u, _, rfl⟩ := Option.map_eq_some_iff.mp hscalar
    exact ⟨u.text, rfl, by rw [u.read?_text, Option.map_some]⟩
  | timestamp =>
    obtain ⟨t, ht, rfl⟩ := Option.map_eq_some_iff.mp hscalar
    obtain ⟨t', hread, htext⟩ := t.exists_read?_text (hyears t ht)
    exact ⟨t.text, rfl, by rw [hread, Option.map_some, htext]⟩
  | date =>
    obtain ⟨d, _, rfl⟩ := Option.map_eq_some_iff.mp hscalar
    exact ⟨d.text, rfl, by rw [d.read?_text, Option.map_some]⟩
  | list | struct | vector => cases hscalar

/-- For the kinds that have no parts nothing can be missing. -/
theorem complete_of_coerceScalar? {kind : Kind} {v : Value} {json : Json}
    (hscalar : v.coerceScalar? kind = some json) : kind.Complete json := by
  cases kind with
  | list | struct => cases hscalar
  | _ => trivial

/-- A property is decoded to a field of its name: to the absent one, which only an optional property
    may have, or to what the column of the property is decoded to. -/
theorem coerceFields_cons_eq_ok {property : Property} {properties : List Property}
    {path : String → Path} {value? : String → Option Value} {entries : List (String × Json)}
    (hcoerce : coerceFields path value? (property :: properties) = .ok entries) :
    ∃ json more, entries = (property.name, json) :: more ∧
      coerceFields path value? properties = .ok more ∧
      ((json = .null ∧ property.isOptional = true) ∨
        ∃ v, value? property.columnName = some v ∧
          coerce (path property.name) v property.kind = .ok json) := by
  obtain ⟨name, column, kind, _, _, isOptional⟩ := property
  have habsent : ∀ {entries}, (do
      return (name, Json.null) :: (← coerceFields path value? properties)) = .ok entries →
      ∃ more, entries = (name, .null) :: more ∧ coerceFields path value? properties = .ok more := by
    intro entries hcoerce
    obtain ⟨more, hmore, heq⟩ := Except.bind_eq_ok.mp hcoerce
    cases heq
    exact ⟨more, rfl, hmore⟩
  rw [coerceFields] at hcoerce
  split at hcoerce
  · split at hcoerce
    · rename_i hoptional
      obtain ⟨more, rfl, hmore⟩ := habsent hcoerce
      exact ⟨.null, more, rfl, hmore, .inl ⟨rfl, hoptional⟩⟩
    · cases hcoerce
  · rename_i v hvalue
    split at hcoerce
    · split at hcoerce
      · rename_i hoptional
        obtain ⟨more, rfl, hmore⟩ := habsent hcoerce
        exact ⟨.null, more, rfl, hmore, .inl ⟨rfl, hoptional⟩⟩
      · cases hcoerce
    · obtain ⟨json, hjson, hcoerce⟩ := Except.bind_eq_ok.mp hcoerce
      obtain ⟨more, hmore, heq⟩ := Except.bind_eq_ok.mp hcoerce
      cases heq
      exact ⟨json, more, rfl, hmore, .inr ⟨v, hvalue, hjson⟩⟩

theorem names_of_coerceFields {properties : List Property} {path : String → Path}
    {value? : String → Option Value} {entries : List (String × Json)}
    (hcoerce : coerceFields path value? properties = .ok entries) :
    Fields.names entries = properties.map (·.name) := by
  induction properties generalizing entries with
  | nil =>
    cases hcoerce
    rfl
  | cons property properties ih =>
    obtain ⟨_, _, rfl, hmore, _⟩ := coerceFields_cons_eq_ok hcoerce
    exact congrArg (property.name :: ·) (ih hmore)

mutual

/-- What a value is decoded to is a document in the usual spelling, with no field missing. -/
theorem canonical_of_coerce (kind : Kind) {path : Path} {v : Value} {json : Json}
    (hdistinct : kind.Distinct) (hyears : kind.FourDigitYears v)
    (hcoerce : coerce path v kind = .ok json) : kind.Canonical json ∧ kind.Complete json := by
  match kind, json, hdistinct, hyears, coerce_eq_ok_iff.mp hcoerce with
  | _, _, _, hyears, .scalar hscalar =>
    exact ⟨canonical_of_coerceScalar? hyears hscalar, complete_of_coerceScalar? hscalar⟩
  | .vector dimension, .array outs, _, _, .vector _ hdimension hitems =>
    refine ⟨⟨outs, rfl, (length_of_convertFrom hitems).trans hdimension, ?_⟩, trivial⟩
    refine forall_of_convertFrom (fun item _ path out hout => ?_) hitems
    exact canonicalSingle_of_toFloat? (require_eq_ok.mp (coercePresent_eq_ok hout))
  | .list inner, .array outs, hdistinct, hyears, .list hlist hitems =>
    have houts : ∀ out ∈ outs, inner.Canonical out ∧ inner.Complete out := by
      refine forall_of_convertFrom (fun item hitem path out hout => ?_) hitems
      exact canonical_of_coerce inner hdistinct (hyears _ hlist item hitem)
        (coercePresent_eq_ok hout)
    refine ⟨⟨outs, rfl, fun out hout => (houts out hout).1⟩, ?_⟩
    intro others hothers out hout
    cases hothers
    exact (houts out hout).2
  | .struct properties, _, ⟨hnames, _, hparts⟩, hyears,
      @Coerces.struct _ _ _ _ entries hcolumns hentries =>
    have hentryNames := names_of_coerceFields hentries
    rw [← hentryNames] at hnames
    have hdeclared : (Fields.ofList entries).names ⊆ properties.map (·.name) := by
      intro name hname
      rw [← Fields.isSome_get?_iff, Fields.get?_ofList hnames, Fields.isSome_get?_iff] at hname
      rwa [← hentryNames]
    obtain ⟨hcanonical, hcomplete⟩ := canonicalFields_of_coerceFields properties
      (Fields.ofList entries) hparts (hyears _ hcolumns) hentries fun entry hentry => by
        rw [Fields.get?_ofList hnames]
        exact Fields.get?_of_mem hnames hentry
    refine ⟨⟨Fields.ofList entries, rfl, hdeclared, hcanonical⟩, ?_⟩
    intro fields hfields
    cases hfields
    exact ⟨Fields.sorted_ofList entries, hdeclared, hcomplete⟩

/-- What the columns of properties are decoded to are the fields of such a document. -/
theorem canonicalFields_of_coerceFields : ∀ (properties : List Property) {path : String → Path}
    {columns : Fields Value} {entries : List (String × Json)} (fields : Fields Json),
    Kind.DistinctParts properties → Kind.FourDigitYearsColumns columns properties →
    coerceFields path columns.get? properties = .ok entries →
    (∀ entry ∈ entries, fields.get? entry.1 = some entry.2) →
    Kind.CanonicalFields fields properties ∧ Kind.CompleteFields fields properties
  | [], _, _, _, _, _, _, _, _ => ⟨trivial, trivial⟩
  | ⟨name, column, kind, _, _, isOptional⟩ :: properties, path, columns, entries, fields,
      hdistinct, hyears, hcoerce, hentries => by
    obtain ⟨hkind, hparts⟩ := hdistinct
    obtain ⟨hcolumn, hcolumns⟩ := hyears
    obtain ⟨json, more, rfl, hmore, hjson⟩ := coerceFields_cons_eq_ok hcoerce
    obtain ⟨hcanonical, hcomplete⟩ := canonicalFields_of_coerceFields properties fields hparts
      hcolumns hmore fun entry hentry => hentries entry (List.mem_cons_of_mem _ hentry)
    have hget : fields.get? name = some json := hentries (name, json) List.mem_cons_self
    have hfield : ((json.isNull = true ∧ isOptional = true) ∨ kind.Canonical json) ∧
        kind.Complete json := by
      rcases hjson with ⟨rfl, hoptional⟩ | ⟨v, hvalue, hjson⟩
      · exact ⟨.inl ⟨rfl, hoptional⟩, kind.complete_null⟩
      · obtain ⟨hcanonical, hcomplete⟩ :=
          canonical_of_coerce kind hkind (hcolumn v hvalue) hjson
        exact ⟨.inr hcanonical, hcomplete⟩
    refine ⟨⟨?_, hcanonical⟩, ⟨json, hget, hfield.2⟩, hcomplete⟩
    rw [hget]
    exact hfield.1

end

/-- What decoding gives is in normal form: it can be encoded, and decoding what it is encoded as
    gives it again. -/
theorem encode_coerce {kind : Kind} {path : Path} {v : Value} {json : Json}
    (hdistinct : kind.Distinct) (hyears : kind.FourDigitYears v)
    (hcoerce : coerce path v kind = .ok json) :
    ∃ v', (∀ path, encode path json kind = .ok v') ∧ ∀ path, coerce path v' kind = .ok json := by
  obtain ⟨hcanonical, hcomplete⟩ := canonical_of_coerce kind hdistinct hyears hcoerce
  obtain ⟨v', hcarries⟩ := exists_carries kind json hdistinct hcanonical
  refine ⟨v', hcarries.encode_eq, fun path => ?_⟩
  rw [hcarries.coerce_eq, kind.withNulls_eq_self json hdistinct hcomplete]

end Record

/-- Visits of guests, with the moment of the visit in a column of another name. -/
def visit : Kind :=
  .struct
    [{ name := "id", kind := .uuid },
      { name := "at", column := some "visited_at", kind := .timestamp },
      { name := "guests", kind := .list (.int .int32) },
      { name := "rating", kind := .vector 1 },
      { name := "note", kind := .string, isOptional := true }]

/-- A visit as a node: the identifier has no hyphens, the moment is in local time, and there are
    three guests, as a floating-point number. -/
def evening : Value :=
  .node none "Visit"
    [("guests", .list [.double (.ofInt 3)]), ("id", .string "6F1C1C2E8B7A4D4E9F3A2B1C0D9E8F7A"),
      ("rating", .list [.double half.val]), ("visited_at", .string "2024-02-29T23:30:00-01:00")]

theorem evening_encode_coerce :
    let json : Json := .object
      [("at", .string "2024-03-01T00:30:00Z"), ("guests", .array [.integer ⟨3, by decide⟩]),
        ("id", .string "6f1c1c2e-8b7a-4d4e-9f3a-2b1c0d9e8f7a"), ("note", .null),
        ("rating", .array [.real half])]
    Record.coerce "visit" evening visit = .ok json ∧
      ∃ v', (∀ path, Record.encode path json visit = .ok v') ∧
        ∀ path, Record.coerce path v' visit = .ok json := by
  intro json
  have hdistinct : visit.Distinct := by
    simp [visit, Kind.Distinct, Kind.DistinctParts, PropertyOf.columnName]
  have hread : Timestamp.read? "2024-02-29T23:30:00-01:00" =
      some ⟨⟨2024, 3, 1, by decide, by decide⟩, 1800, 0, by decide, by decide⟩ := by
    decide +kernel
  have hyears : visit.FourDigitYears evening := by
    simp [visit, evening, Kind.FourDigitYears, Kind.FourDigitYearsColumns, Value.asFields?,
      Fields.get?_cons, Value.toTimestamp?, hread]
  have hid : (Value.string "6F1C1C2E8B7A4D4E9F3A2B1C0D9E8F7A").coerceScalar? .uuid =
      some (.string "6f1c1c2e-8b7a-4d4e-9f3a-2b1c0d9e8f7a") := by
    rfl
  have hat : (Value.string "2024-02-29T23:30:00-01:00").coerceScalar? .timestamp =
      some (.string "2024-03-01T00:30:00Z") := by
    rfl
  have hguests : (Value.double (.ofInt 3)).coerceScalar? (.int .int32) =
      some (.integer ⟨3, by decide⟩) := by
    have hthree : (Binary.ofInt 3 : Double).toInt? = some 3 := by decide +kernel
    simp [Value.coerceScalar?, Value.toInteger?_int, Value.toInt?, hthree, SizedInt.ofInt?,
      IntKind.Holds, IntKind.least, IntKind.greatest, SizedInt.toJson]
  have hrating : (Value.double half.val).toFloat? = some (.real half) :=
    Record.toFloat?_of_kept rfl (by decide +kernel)
  have hcoerce : Record.coerce "visit" evening visit = .ok json := by
    simp [Record.coerce, Record.coerceFields, Record.require, visit, evening, Value.asFields?,
      Value.asList?, Fields.get?_cons, Fields.get?_nil, Value.isNull, Path.convertItems,
      Path.convertFrom, Record.coercePresent, Record.coerceElement, hid, hat, hguests, hrating]
    rfl
  exact ⟨hcoerce, Record.encode_coerce hdistinct hyears hcoerce⟩

end GraphQuery
