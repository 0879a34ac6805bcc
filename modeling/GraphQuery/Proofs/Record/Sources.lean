import GraphQuery.Proofs.Record.Conforming

namespace GraphQuery

namespace Row

/-- A row with a column for each of some entries, under its name. -/
def ofEntries (entries : Fields Value) : Row :=
  ⟨entries.names, entries.map Prod.snd⟩

theorem get?_ofEntries (entries : Fields Value) (name : String) :
    (ofEntries entries).get? name = entries.get? name := by
  induction entries with
  | nil => rfl
  | cons entry entries ih =>
    rw [Fields.get?_cons, ← ih]
    unfold ofEntries get? Fields.names
    rw [List.map_cons, List.idxOf?_cons]
    by_cases heq : name = entry.1
    · simp [heq]
    · simp only [if_neg heq, beq_false_of_ne (Ne.symm heq)]
      cases (entries.map Prod.fst).idxOf? name <;> rfl

theorem entries_ofEntries (entries : Fields Value) : (ofEntries entries).entries = entries := by
  exact (List.zip_of_prod rfl rfl).symm

/-- A row that holds the properties of a record: in a node, a relationship or a map that is its only
    cell, or in cells of their own, in any order. A single property that is a map cannot stand in a
    cell of its own, where it would be read as the whole record. -/
inductive Holds (properties : Fields Value) : Row → Prop
  | node (column label : String) (id : Option InternalId) :
      Holds properties ⟨[column], [.node id label properties]⟩
  | rel (column label : String) (id source target : Option InternalId) :
      Holds properties ⟨[column], [.rel id label source target properties]⟩
  | map (column : String) : Holds properties ⟨[column], [.map properties]⟩
  | columns {entries : Fields Value} (hperm : entries.Perm properties)
      (hsingle : ∀ name inner, properties ≠ [(name, .map inner)]) :
      Holds properties (ofEntries entries)

/-- Columns of their own are not taken for a record in a single cell. -/
theorem entity?_ofEntries {entries : Fields Value}
    (hplain : ∀ entry ∈ entries, entry.2.label? = none)
    (hsingle : ∀ name inner, entries ≠ [(name, .map inner)]) (schema : Schema) :
    Record.entity? schema (ofEntries entries) = none := by
  have hentities : Record.entities (ofEntries entries) = [] := by
    rw [Record.entities, entries_ofEntries, List.filter_eq_nil_iff]
    intro v hmem
    obtain ⟨entry, hentry, rfl⟩ := List.mem_map.mp hmem
    simp [hplain entry hentry]
  unfold Record.entity?
  rw [hentities, entries_ofEntries]
  -- Of the ways to find a record in one cell only that of a single map is left, which `hsingle`
  -- rules out.
  simp only [List.find?_nil]

variable {properties : Fields Value} {row : Row}

/-- However a row holds the properties of a record, the values of the columns are found in the table
    of the properties. -/
theorem Holds.source_eq (hholds : row.Holds properties) (hdistinct : properties.names.Nodup)
    (hplain : ∀ entry ∈ properties, entry.2.label? = none) (schema : Schema) :
    Record.source schema row = properties.get? := by
  cases hholds with
  | node column label id =>
    by_cases hlabel : label = schema.name <;>
      simp [Record.source, Record.entity?, Record.entities, entries, Value.label?, Value.asFields?,
        hlabel]
  | rel column label id source target =>
    by_cases hlabel : label = schema.name <;>
      simp [Record.source, Record.entity?, Record.entities, entries, Value.label?, Value.asFields?,
        hlabel]
  | map column =>
    simp [Record.source, Record.entity?, Record.entities, entries, Value.label?]
  | @columns entries hperm hsingle =>
    have hnone : Record.entity? schema (ofEntries entries) = none := by
      refine entity?_ofEntries (fun entry hmem => hplain entry (hperm.mem_iff.mp hmem)) ?_ schema
      rintro name inner rfl
      exact hsingle name inner (List.perm_singleton.mp hperm.symm)
    unfold Record.source
    rw [hnone]
    funext name
    exact (get?_ofEntries entries name).trans
      (Fields.get?_of_perm hperm ((hperm.map Prod.fst).nodup_iff.mpr hdistinct) name)

end Row

variable {α : Type}

/-- Decoding does not depend on how a row holds the properties of a record: there is one record, or
    one error, for a node, a relationship and a map, whether they are looked for or named by their
    column, and for columns in any order. -/
theorem Model.decode_eq_decode (model : Model α) {properties : Fields Value}
    (hdistinct : properties.names.Nodup)
    (hplain : ∀ entry ∈ properties, entry.2.label? = none) {first second : Row}
    (hfirst : first.Holds properties) (hsecond : second.Holds properties) :
    model.decode first = model.decode second ∧
      ∀ column v, v.asFields? = some properties →
        model.decodeColumn ⟨[column], [v]⟩ column = model.decode first := by
  have hbuild : ∀ {row : Row}, row.Holds properties →
      model.decode row = model.build properties.get? := by
    intro row hholds
    rw [model.decode_eq_build, hholds.source_eq hdistinct hplain]
  refine ⟨(hbuild hfirst).trans (hbuild hsecond).symm, fun column v hfields => ?_⟩
  rw [hbuild hfirst, decodeColumn]
  simp [Row.get?, List.idxOf?_cons, hfields]

/-- The properties of a measurement: the identifier is in capitals, the level is a floating-point
    number, and the place has no note. -/
def reading : Fields Value :=
  [("id", .string "6F1C1C2E-8B7A-4D4E-9F3A-2B1C0D9E8F7A"),
    ("image", .list [.double (.ofInt 3), .int ⟨.int64, 6, by decide⟩]),
    ("level", .double (.ofInt 200)), ("place", .map [("x", .int ⟨.int64, -8, by decide⟩)]),
    ("taken_on", .string "2024-02-29")]

/-- What was seen, in numbers that single precision has exactly. -/
def readingImage : JsonReal × JsonReal :=
  (⟨.ofInt 3, by decide +kernel⟩, ⟨.ofInt 6, by decide +kernel⟩)

/-- The measurement that these properties are read as: the identifier is in small letters, the level
    is an integer, and the note is absent. -/
def readingRecord : Json :=
  .object
    [("id", .string "6f1c1c2e-8b7a-4d4e-9f3a-2b1c0d9e8f7a"),
      ("image", .array [.real readingImage.1, .real readingImage.2]),
      ("level", .integer ⟨200, by decide⟩),
      ("place", .object [("note", .null), ("x", .integer ⟨-8, by decide⟩)]),
      ("takenOn", .string "2024-02-29")]

theorem build_reading : measurements.build reading.get? = .ok readingRecord := by
  have hid : (Value.string "6F1C1C2E-8B7A-4D4E-9F3A-2B1C0D9E8F7A").coerceScalar? .uuid =
      some (.string "6f1c1c2e-8b7a-4d4e-9f3a-2b1c0d9e8f7a") := by
    rfl
  have hdate : (Value.string "2024-02-29").coerceScalar? .date = some (.string "2024-02-29") := by
    rfl
  have hlevel : (Value.double (.ofInt 200)).coerceScalar? (.int .uint8) =
      some (.integer ⟨200, by decide⟩) := by
    have hexact : (Binary.ofInt 200 : Double).toInt? = some 200 := by decide +kernel
    rw [Value.coerceScalar?, Value.toInteger?, Value.toInt?, hexact]
    rfl
  have hplace : (Value.int ⟨.int64, -8, by decide⟩).coerceScalar? (.int .int32) =
      some (.integer ⟨-8, by decide⟩) := by
    rfl
  have hfirst : (Value.double (.ofInt 3)).toFloat? = some (.real readingImage.1) :=
    Record.toFloat?_of_kept rfl (by decide +kernel)
  have hsecond : (Value.int ⟨.int64, 6, by decide⟩).toFloat? = some (.real readingImage.2) :=
    Record.toFloat?_of_kept rfl (by decide +kernel)
  have hfields : Record.coerceFields id reading.get? measurements.schema.properties =
      .ok [("id", .string "6f1c1c2e-8b7a-4d4e-9f3a-2b1c0d9e8f7a"),
        ("takenOn", .string "2024-02-29"), ("level", .integer ⟨200, by decide⟩),
        ("place", .object [("note", .null), ("x", .integer ⟨-8, by decide⟩)]),
        ("image", .array [.real readingImage.1, .real readingImage.2])] := by
    simp [Record.coerce, Record.coerceFields, Record.require, measurements, reading,
      Value.asFields?, Value.asList?, Fields.get?_cons, Fields.get?_nil, Value.isNull,
      Path.convertItems, Path.convertFrom, Record.coercePresent, Record.coerceElement, hid, hdate,
      hlevel, hplace, hfirst, hsecond]
    rfl
  rw [Model.build, hfields]
  rfl

theorem reading_decode_eq_decode :
    measurements.decode ⟨["m"], [.node none "Sensor" reading]⟩ = .ok readingRecord ∧
      measurements.decode (.ofEntries reading.reverse) = .ok readingRecord ∧
      measurements.decodeColumn ⟨["m"], [.map reading]⟩ "m" = .ok readingRecord := by
  have hdistinct : reading.names.Nodup := by decide
  have hplain : ∀ entry ∈ reading, entry.2.label? = none := by simp [reading, Value.label?]
  have hnode : Row.Holds reading ⟨["m"], [.node none "Sensor" reading]⟩ := .node "m" "Sensor" none
  have hcolumns : Row.Holds reading (.ofEntries reading.reverse) :=
    .columns reading.reverse_perm (by simp [reading])
  have hdecode :
      measurements.decode ⟨["m"], [.node none "Sensor" reading]⟩ = .ok readingRecord := by
    rw [measurements.decode_eq_build, hnode.source_eq hdistinct hplain, build_reading]
  obtain ⟨hrow, hcolumn⟩ := measurements.decode_eq_decode hdistinct hplain hnode hcolumns
  exact ⟨hdecode, hrow ▸ hdecode, (hcolumn "m" (.map reading) rfl).trans hdecode⟩

end GraphQuery
