import GraphQuery.Proofs.Record.Sources

namespace GraphQuery

/-- Only of lists with at least two items is there another order. -/
theorem eq_or_two_le_of_perm {α : Type} {first second : List α} (hperm : first.Perm second) :
    first = second ∨ 2 ≤ first.length := by
  cases first with
  | nil => exact .inl hperm.nil_eq
  | cons a rest =>
    cases rest with
    | nil => exact .inl (List.perm_singleton.mp hperm.symm).symm
    | cons b rest => exact .inr (by simp)

/-- An item that is the only one to pass a test is found in any order. -/
theorem find?_eq_of_perm {α : Type} {passes : α → Bool} {first second : List α}
    (hperm : first.Perm second) (hone : first.countP passes ≤ 1) :
    first.find? passes = second.find? passes := by
  rw [← List.head?_filter, ← List.head?_filter]
  rcases eq_or_two_le_of_perm (hperm.filter passes) with heq | htwo
  · rw [heq]
  · rw [List.countP_eq_length_filter] at hone
    omega

namespace Row

/-- A row has a cell for each of its columns. -/
def IsFull (row : Row) : Prop :=
  row.cells.length = row.columns.length

variable {row : Row}

theorem IsFull.names_entries (hfull : row.IsFull) : Fields.names row.entries = row.columns :=
  List.map_fst_zip (Nat.le_of_eq hfull.symm)

theorem IsFull.cells_entries (hfull : row.IsFull) : row.entries.map Prod.snd = row.cells :=
  List.map_snd_zip (Nat.le_of_eq hfull)

/-- The cell of a column is looked up among the entries. -/
theorem IsFull.get?_eq (hfull : row.IsFull) (name : String) :
    row.get? name = Fields.get? row.entries name := by
  have hrow : row = ofEntries row.entries := by
    rw [ofEntries, hfull.names_entries, hfull.cells_entries]
  rw [hrow, get?_ofEntries, ← hrow]

end Row

namespace Record

variable {schema : Schema} {row first second : Row}

theorem length_entities_le (row : Row) : (entities row).length ≤ row.entries.length := by
  have hle : (entities row).length ≤ (row.entries.map Prod.snd).length := List.length_filter_le _ _
  rwa [List.length_map] at hle

/-- Among several columns a map is not taken for a record, so that only the entities decide. -/
theorem entity?_of_columns (hcolumns : 2 ≤ row.entries.length) :
    entity? schema row =
      match (entities row).find? fun v => v.label? = some schema.name with
      | some labelled => labelled.asFields?
      | none =>
        match entities row with
        | [single] => single.asFields?
        | _ => none := by
  unfold entity?
  cases (entities row).find? fun v => v.label? = some schema.name with
  | some labelled => rfl
  | none =>
    rcases hentries : row.entries with _ | ⟨a, _ | ⟨b, rest⟩⟩
    · simp [hentries] at hcolumns
    · simp [hentries] at hcolumns
    · rcases entities row with _ | ⟨v, _ | ⟨w, others⟩⟩ <;> simp

/-- Among several entities only the label decides. -/
theorem entity?_of_entities (hentities : 2 ≤ (entities row).length) :
    entity? schema row =
      ((entities row).find? fun v => v.label? = some schema.name).bind Value.asFields? := by
  rw [entity?_of_columns (hentities.trans (length_entities_le row))]
  rcases hlist : entities row with _ | ⟨v, _ | ⟨w, others⟩⟩
  · simp [hlist] at hentities
  · simp [hlist] at hentities
  · cases List.find? (fun v => decide (v.label? = some schema.name)) (v :: w :: others) <;> rfl

/-- What holds the whole record of a row does not depend on the order of its columns. -/
theorem entity?_eq_of_perm (hperm : first.entries.Perm second.entries)
    (hone : (entities first).countP (fun v => v.label? = some schema.name) ≤ 1) :
    entity? schema first = entity? schema second := by
  rcases eq_or_two_le_of_perm hperm with heq | hcolumns
  · unfold entity? entities
    rw [heq]
  have hentities : (entities first).Perm (entities second) := (hperm.map Prod.snd).filter _
  rcases eq_or_two_le_of_perm hentities with heq | hmany
  · rw [entity?_of_columns hcolumns, entity?_of_columns (hperm.length_eq ▸ hcolumns), heq]
  · rw [entity?_of_entities hmany, entity?_of_entities (hentities.length_eq ▸ hmany),
      find?_eq_of_perm hentities hone]

/-- Where the values of a record's columns are found does not depend on their order. -/
theorem source_eq_of_perm (hfirst : first.IsFull) (hsecond : second.IsFull)
    (hdistinct : first.columns.Nodup) (hperm : first.entries.Perm second.entries)
    (hone : first.cells.countP (fun v => v.label? = some schema.name) ≤ 1) :
    source schema first = source schema second := by
  have hlabelled : (entities first).countP (fun v => v.label? = some schema.name) ≤ 1 := by
    rw [entities, hfirst.cells_entries]
    exact List.filter_sublist.countP_le.trans hone
  have hcells : first.get? = second.get? := by
    funext name
    rw [hfirst.get?_eq, hsecond.get?_eq]
    exact Fields.get?_of_perm hperm (hfirst.names_entries ▸ hdistinct) name
  unfold source
  rw [entity?_eq_of_perm hperm hlabelled, hcells]

end Record

variable {α : Type}

/-- Decoding does not depend on the order of the columns: a row whose columns have different names,
    and of whose entities at most one bears the label of the schema, is read as the same record, or
    with the same error, in any other order of its columns. -/
theorem Model.decode_eq_of_perm (model : Model α) {first second : Row} (hfirst : first.IsFull)
    (hsecond : second.IsFull) (hdistinct : first.columns.Nodup)
    (hperm : first.entries.Perm second.entries)
    (hone : first.cells.countP (fun v => v.label? = some model.schema.name) ≤ 1) :
    model.decode first = model.decode second := by
  rw [model.decode_eq_build, model.decode_eq_build,
    Record.source_eq_of_perm hfirst hsecond hdistinct hperm hone]

/-- A measurement beside the person who made it, a map and a scalar. -/
def readingOfAda : Row where
  columns := ["maker", "m", "extra", "n"]
  cells :=
    [.node none "Person" [("name", .string "Ada")], .node none "Measurement" reading,
      .map [("id", .null)], .int ⟨.int64, 1, by decide⟩]

/-- The same row with its columns the other way round. -/
def readingOfAdaReversed : Row :=
  ⟨readingOfAda.columns.reverse, readingOfAda.cells.reverse⟩

theorem readingOfAda_decode_eq :
    measurements.decode readingOfAda = .ok readingRecord ∧
      measurements.decode readingOfAdaReversed = .ok readingRecord := by
  have hfull : readingOfAda.IsFull := rfl
  have hfull' : readingOfAdaReversed.IsFull := rfl
  have hperm : readingOfAda.entries.Perm readingOfAdaReversed.entries :=
    (List.reverse_perm readingOfAda.entries).symm
  have hone : readingOfAda.cells.countP
      (fun v => v.label? = some measurements.schema.name) ≤ 1 := by
    simp [readingOfAda, measurements, Value.label?]
  have hsource : Record.source measurements.schema readingOfAda = reading.get? := by
    simp [Record.source, Record.entity?, Record.entities, readingOfAda, measurements, Row.entries,
      Value.label?, Value.asFields?]
  have hdecode : measurements.decode readingOfAda = .ok readingRecord := by
    rw [measurements.decode_eq_build, hsource, build_reading]
  refine ⟨hdecode, ?_⟩
  rw [← measurements.decode_eq_of_perm hfull hfull' (by decide) hperm hone, hdecode]

end GraphQuery
