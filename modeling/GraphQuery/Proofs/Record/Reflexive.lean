import GraphQuery.Proofs.Record.Normal
import GraphQuery.Proofs.Record.Partition
import GraphQuery.Proofs.Value.Reflexivity

namespace GraphQuery

theorem Fields.mem_foldl_insert {α : Type u} {entries : List (String × α)} {fields : Fields α}
    {entry : String × α}
    (hmem : entry ∈ entries.foldl (fun fields entry => fields.insert entry.1 entry.2) fields) :
    entry ∈ entries ∨ entry ∈ fields := by
  induction entries generalizing fields with
  | nil => exact .inr hmem
  | cons first entries ih =>
    rcases ih hmem with hrest | hinsert
    · exact .inl (List.mem_cons_of_mem _ hrest)
    · rcases mem_insert hinsert with rfl | hfields
      · exact .inl List.mem_cons_self
      · exact .inr hfields

theorem Fields.mem_of_mem_ofList {α : Type u} {entries : List (String × α)} {entry : String × α}
    (hmem : entry ∈ ofList entries) : entry ∈ entries :=
  (mem_foldl_insert hmem).resolve_right List.not_mem_nil

theorem Binary.ne_nan_of_isFinite {F : BinaryFormat} {x : Binary F} (hfinite : x.isFinite = true) :
    x ≠ .nan := by
  rintro rfl
  cases hfinite

namespace Value

theorem itemsHoldNan_eq_false_iff {items : List Value} :
    itemsHoldNan items = false ↔ ∀ item ∈ items, item.holdsNan = false := by
  induction items with
  | nil => simp [itemsHoldNan]
  | cons item items ih => rw [itemsHoldNan, Bool.or_eq_false_iff, List.forall_mem_cons, ih]

theorem entriesHoldNan_eq_false_iff {entries : Fields Value} :
    entriesHoldNan entries = false ↔ ∀ entry ∈ entries, entry.2.holdsNan = false := by
  induction entries with
  | nil => simp [entriesHoldNan]
  | cons entry entries ih => rw [entriesHoldNan, Bool.or_eq_false_iff, List.forall_mem_cons, ih]

end Value

namespace Record

/-- A number in the range of single precision is still a number after it has been narrowed. -/
theorem holdsNan_narrow {x : Double} (hrange : x.withinRange .single = true) :
    (Value.float x.narrow).holdsNan = false := by
  have hnarrow : x.narrow.isFinite = true := Binary.isFinite_convert (by decide) hrange
  simpa [Value.holdsNan] using Binary.ne_nan_of_isFinite hnarrow

mutual

/-- No document is encoded as a value in which something is not a number. -/
theorem holdsNan_of_encode (kind : Kind) {path : Path} {json : Json} {v : Value}
    (hencode : encode path json kind = .ok v) : v.holdsNan = false := by
  match kind, json, v, encodes_of_encode hencode with
  | _, _, _, .null _ | _, _, _, .string _ | _, _, _, .bool _ | _, _, _, .int _ | _, _, _, .uuid _
  | _, _, _, .timestamp _ | _, _, _, .date _ => rfl
  | _, _, _, .float _ hrange => exact holdsNan_narrow hrange
  | _, _, _, .double hnumber =>
    simpa [Value.holdsNan] using Binary.ne_nan_of_isFinite (Json.isFinite_of_asDouble? hnumber)
  | .list inner, _, _, .list hitems =>
    exact Value.itemsHoldNan_eq_false_iff.mpr
      (forall_of_convertFrom (fun _ _ _ _ => holdsNan_of_encode inner) hitems)
  | _, _, _, .vector hitems =>
    refine Value.itemsHoldNan_eq_false_iff.mpr <|
      forall_of_convertFrom (fun _ _ _ _ hitem => ?_) hitems
    cases encodes_of_encode hitem with
    | null => rfl
    | float _ hrange => exact holdsNan_narrow hrange
  | .struct properties, _, _, .struct hcolumns =>
    refine Value.entriesHoldNan_eq_false_iff.mpr fun entry hmem => ?_
    exact holdsNan_of_encodeFields properties hcolumns entry (Fields.mem_of_mem_ofList hmem)

theorem holdsNan_of_encodeFields (properties : List Property) {path : Path}
    {fields : Fields Json} {columns : List (String × Value)}
    (hencode : encodeFields path fields properties = .ok columns) :
    ∀ column ∈ columns, column.2.holdsNan = false := by
  match properties with
  | [] =>
    cases hencode
    exact fun _ hmem => absurd hmem List.not_mem_nil
  | ⟨name, column, kind, _, _, _⟩ :: properties =>
    rcases encodeFields_cons_eq_ok hencode with
      ⟨_, hmore⟩ | ⟨json, v, more, _, _, hvalue, hmore, rfl⟩
    · exact holdsNan_of_encodeFields properties hmore
    · exact List.forall_mem_cons.mpr
        ⟨holdsNan_of_encode kind hvalue, holdsNan_of_encodeFields properties hmore⟩

end

/-- The columns of declared properties hold values that are equal to themselves. -/
theorem Declared.equals_self {schema : Schema} {fields rest : Fields Json}
    {properties : List Property} {columns : List (String × Value)}
    (hcolumns : Declared schema fields properties columns rest) :
    ∀ column ∈ columns, column.2.equals column.2 = true := by
  induction hcolumns with
  | nil => exact fun _ hmem => absurd hmem List.not_mem_nil
  | absent _ _ ih => exact ih
  | present _ _ hencode _ ih =>
    have hself := holdsNan_of_encode _ (encode_of_encodeProperty hencode)
    exact List.forall_mem_cons.mpr ⟨(Value.equals_self_iff _).mpr hself, ih⟩

end Record

end GraphQuery
