import GraphQuery.Proofs.Record.Unique
import GraphQuery.Proofs.Record.Vectors
import Mathlib.Data.List.Find
import Mathlib.Data.List.Forall2

namespace GraphQuery

/-- A list is checked up to the first item that is refused. -/
theorem Except.mapM_eq_error_iff {α β ε : Type} {check : α → Except ε β} {items : List α}
    {error : ε} :
    items.mapM check = .error error ↔ ∃ before item after, items = before ++ item :: after ∧
      (∀ other ∈ before, ∃ b, check other = .ok b) ∧ check item = .error error := by
  induction items with
  | nil => simp [pure, Except.pure]
  | cons item items ih =>
    rw [List.mapM_cons]
    cases hitem : check item with
    | error cause =>
      simp only [bind, Except.bind, Except.error.injEq]
      constructor
      · rintro rfl
        exact ⟨[], item, items, rfl, List.forall_mem_nil _, hitem⟩
      · rintro ⟨_ | ⟨first, before⟩, other, after, heq, hbefore, hother⟩
        · cases heq
          rw [hitem] at hother
          exact Except.error.inj hother
        · cases heq
          obtain ⟨b, hb⟩ := hbefore item List.mem_cons_self
          rw [hitem] at hb
          cases hb
    | ok b =>
      have hrest : ((Except.ok b >>= fun b => items.mapM check >>= fun bs => pure (b :: bs)) :
          Except ε (List β)) = .error error ↔ items.mapM check = .error error := by
        cases items.mapM check <;> simp [bind, Except.bind, pure, Except.pure]
      rw [hrest, ih]
      constructor
      · rintro ⟨before, other, after, rfl, hbefore, hother⟩
        exact ⟨item :: before, other, after, rfl,
          List.forall_mem_cons.mpr ⟨⟨b, hitem⟩, hbefore⟩, hother⟩
      · rintro ⟨_ | ⟨first, before⟩, other, after, heq, hbefore, hother⟩
        · cases heq
          rw [hitem] at hother
          cases hother
        · cases heq
          exact ⟨before, other, after, rfl, (List.forall_mem_cons.mp hbefore).2, hother⟩

theorem Except.mapM_eq_ok_iff {α β ε : Type} {check : α → Except ε β} {items : List α}
    {results : List β} :
    items.mapM check = .ok results ↔
      List.Forall₂ (fun item result => check item = .ok result) items results := by
  induction items generalizing results with
  | nil =>
    rw [List.mapM_nil]
    constructor
    · intro heq
      cases heq
      exact .nil
    · intro hall
      cases hall
      rfl
  | cons item items ih =>
    simp only [List.mapM_cons, Except.bind_eq_ok]
    constructor
    · rintro ⟨b, hitem, bs, hrest, heq⟩
      cases heq
      exact .cons hitem (ih.mp hrest)
    · rintro (_ | ⟨hitem, hrest⟩)
      exact ⟨_, hitem, _, ih.mpr hrest, rfl⟩

namespace Record

/-- A value is absent exactly if the document is that it stands for. -/
theorem isNull_of_encode {path : Path} {json : Json} {kind : Kind} {v : Value}
    (hencode : encode path json kind = .ok v) : v.isNull = json.isNull := by
  cases encodes_of_encode hencode with
  | float hnumber _ | double hnumber => exact (Json.isNull_of_asDouble? hnumber).symm
  | _ => rfl

theorem encode_of_encodeProperty {schema : Schema} {property : Property} {json : Json} {v : Value}
    (hencode : encodeProperty schema property json = .ok v) :
    encode (Path.field schema.name property.name) json property.kind = .ok v := by
  unfold encodeProperty at hencode
  split at hencode
  · split at hencode
    · cases hencode
    · exact hencode
  · exact hencode

theorem isNull_ofJson (json : Json) : (Value.ofJson json).isNull = json.isNull := by
  cases json with
  | integer n =>
    unfold Value.ofJson
    split <;> rfl
  | _ => simp [Value.ofJson, Value.isNull, Json.isNull]

theorem Declared.present_of_mem {schema : Schema} {fields rest : Fields Json}
    {properties : List Property} {columns : List (String × Value)}
    (hcolumns : Declared schema fields properties columns rest) :
    ∀ column ∈ columns, column.2.isNull = false := by
  induction hcolumns with
  | nil => exact List.forall_mem_nil _
  | absent _ _ ih => exact ih
  | present _ hpresent hencode _ ih =>
    refine List.forall_mem_cons.mpr ⟨?_, ih⟩
    exact (isNull_of_encode (encode_of_encodeProperty hencode)).trans hpresent

theorem present_of_mem_encodeUndeclared {fields : Fields Json} :
    ∀ column ∈ encodeUndeclared fields, column.2.isNull = false := by
  intro column hmem
  obtain ⟨⟨name, json⟩, _, hkept⟩ := List.mem_filterMap.mp hmem
  cases hnull : json.isNull with
  | true => simp [hnull] at hkept
  | false =>
    simp only [hnull, Bool.false_eq_true, if_false, Option.some.injEq] at hkept
    rw [← hkept]
    exact (isNull_ofJson json).trans hnull

end Record

variable {α : Type} {model : Model α} {record : α} {columns : List (String × Value)}

/-- No column of a record holds the absent value. -/
theorem Model.present_of_encode (hencode : model.encode record = .ok columns) :
    ∀ column ∈ columns, column.2.isNull = false := by
  unfold Model.encode at hencode
  split at hencode
  · cases hencode
  · split at hencode
    · cases hencode
    · simp only [Except.bind_eq_ok, Prod.exists] at hencode
      obtain ⟨declared, rest, hdeclared, heq⟩ := hencode
      cases heq
      intro column hmem
      rcases List.mem_append.mp hmem with hfront | hback
      · exact (Record.declared_of_encodeDeclared hdeclared).present_of_mem column hfront
      · exact Record.present_of_mem_encodeUndeclared column hback

namespace Schema

/-- The columns that a record is looked up by: those of the properties that are named as keys, or
    that of the primary key where none is named. -/
inductive KeyColumns (schema : Schema) : List String → List String → Prop
  | primary {property : Property} (hprimary : schema.primaryKey? = some property) :
      KeyColumns schema [] [property.columnName]
  | named {keys columns : List String} (hne : keys ≠ [])
      (hcolumns : List.Forall₂ (fun key column => ∃ property,
        schema.property? key = some property ∧ property.columnName = column) keys columns) :
      KeyColumns schema keys columns

variable {schema : Schema} {keys keyColumns : List String}

theorem KeyColumns.ne_nil
    (hkeys : schema.KeyColumns keys keyColumns) : keyColumns ≠ [] := by
  cases hkeys with
  | primary hprimary => exact List.cons_ne_nil _ _
  | named hne hcolumns =>
    rintro rfl
    cases hcolumns
    exact hne rfl

theorem requireColumn_eq_ok_iff {key column : String} :
    (do return (← schema.require key).columnName : Except QueryError String) = .ok column ↔
      ∃ property, schema.property? key = some property ∧ property.columnName = column := by
  unfold require
  cases schema.property? key <;> simp [bind, Except.bind, pure, Except.pure]

theorem requireColumn_eq_error_iff {key : String} {error : QueryError} :
    (do return (← schema.require key).columnName : Except QueryError String) = .error error ↔
      schema.property? key = none ∧ error = .undeclaredProperty schema.name key := by
  unfold require
  cases schema.property? key <;> simp [bind, Except.bind, pure, Except.pure, eq_comm]

theorem keyColumns_eq_ok_iff :
    schema.keyColumns keys = .ok keyColumns ↔ schema.KeyColumns keys keyColumns := by
  cases keys with
  | nil =>
    constructor
    · intro hcolumns
      unfold Schema.keyColumns at hcolumns
      cases hprimary : schema.primaryKey? with
      | none => simp [hprimary, failWith] at hcolumns
      | some property =>
        simp [hprimary] at hcolumns
        exact hcolumns ▸ .primary hprimary
    · rintro (hprimary | ⟨hne, _⟩)
      · simp [Schema.keyColumns, hprimary]
      · exact absurd rfl hne
  | cons key keys =>
    have hmap : schema.keyColumns (key :: keys) =
        (key :: keys).mapM fun key => do return (← schema.require key).columnName := rfl
    rw [hmap, Except.mapM_eq_ok_iff]
    simp only [requireColumn_eq_ok_iff]
    constructor
    · exact .named (List.cons_ne_nil key keys)
    · rintro (_ | ⟨_, hcolumns⟩)
      exact hcolumns

theorem keyColumns_eq_error_of_undeclared {before after : List String} {key : String}
    (hbefore : ∀ other ∈ before, (schema.property? other).isSome = true)
    (hkey : schema.property? key = none) :
    schema.keyColumns (before ++ key :: after) =
      .error (.undeclaredProperty schema.name key) := by
  have hmap : schema.keyColumns (before ++ key :: after) =
      (before ++ key :: after).mapM fun key => do return (← schema.require key).columnName := by
    rw [Schema.keyColumns, if_neg (by simp)]
  rw [hmap, Except.mapM_eq_error_iff]
  refine ⟨before, key, after, rfl, fun other hmem => ?_, requireColumn_eq_error_iff.mpr ⟨hkey, rfl⟩⟩
  obtain ⟨property, hproperty⟩ := Option.isSome_iff_exists.mp (hbefore other hmem)
  exact ⟨_, requireColumn_eq_ok_iff.mpr ⟨property, hproperty, rfl⟩⟩

/-- Keys have columns if all of them are declared, and if there is a primary key to take the place
    of keys that are not given. -/
theorem exists_keyColumns (hdeclared : ∀ key ∈ keys, (schema.property? key).isSome = true)
    (hprimary : keys = [] → schema.primaryKey?.isSome = true) :
    ∃ keyColumns, schema.KeyColumns keys keyColumns := by
  cases keys with
  | nil =>
    obtain ⟨property, hproperty⟩ := Option.isSome_iff_exists.mp (hprimary rfl)
    exact ⟨_, .primary hproperty⟩
  | cons key keys =>
    refine ⟨(key :: keys).map schema.columnFor, .named (List.cons_ne_nil key keys) ?_⟩
    rw [List.forall₂_map_right_iff, List.forall₂_same]
    intro other hmem
    obtain ⟨property, hproperty⟩ := Option.isSome_iff_exists.mp (hdeclared other hmem)
    exact ⟨property, hproperty, by rw [columnFor, hproperty]⟩

end Schema

namespace Model

/-- What a merge of a record is, once its key columns are known. -/
theorem merge_of_keyColumns (aliasName : String) {keys keyColumns : List String}
    (hkeys : model.schema.KeyColumns keys keyColumns)
    (hencode : model.encode record = .ok columns) :
    model.merge aliasName record keys =
      match keyColumns.find? fun column => column ∉ Fields.names columns with
      | some missing => failWith "merge" (.missingKey model.schema.name missing)
      | none => .ok (.merge (.node (.labelled aliasName model.schema.name []))
        (columns.filter fun column => column.1 ∈ keyColumns)
        (columns.filter fun column => column.1 ∉ keyColumns)
        (columns.filter fun column => column.1 ∉ keyColumns)) := by
  have hmember : ∀ column ∈ keyColumns,
      (column ∈ (columns.filter fun column => keyColumns.contains column.1).map Prod.fst ↔
        column ∈ Fields.names columns) := by
    intro column hmem
    simp [Fields.names, hmem]
  have hfind : (keyColumns.find? fun column =>
      !((columns.filter fun column => keyColumns.contains column.1).map Prod.fst).contains column) =
        keyColumns.find? fun column => column ∉ Fields.names columns := by
    refine List.find?_congr fun column hmem => ?_
    rw [Bool.eq_iff_iff, Bool.not_eq_true', List.contains_eq_mem, decide_eq_false_iff_not,
      decide_eq_true_iff, hmember column hmem]
  have hkept : (columns.filter fun column => keyColumns.contains column.1) =
      columns.filter fun column => column.1 ∈ keyColumns := by
    simp only [List.contains_eq_mem]
  have hothers : (columns.filter fun column => !keyColumns.contains column.1) =
      columns.filter fun column => column.1 ∉ keyColumns := by
    simp only [List.contains_eq_mem, decide_not]
  rw [merge, Schema.keyColumns_eq_ok_iff.mpr hkeys, hencode]
  simp only [Except.ok_bind, List.partition_eq_filter_filter, Function.comp_def]
  rw [hfind, hkept, hothers]
  rfl

/-- A merge that is made has a value for every key column, and sets the columns that are none. -/
theorem eq_of_merge_eq_ok {aliasName : String} {keys : List String} {clause : Clause}
    (hmerge : model.merge aliasName record keys = .ok clause) :
    ∃ keyColumns columns, model.schema.KeyColumns keys keyColumns ∧
      model.encode record = .ok columns ∧ (∀ column ∈ keyColumns, column ∈ Fields.names columns) ∧
      clause = .merge (.node (.labelled aliasName model.schema.name []))
        (columns.filter fun column => column.1 ∈ keyColumns)
        (columns.filter fun column => column.1 ∉ keyColumns)
        (columns.filter fun column => column.1 ∉ keyColumns) := by
  obtain ⟨keyColumns, hkeys, hrest⟩ := Except.bind_eq_ok.mp hmerge
  obtain ⟨columns, hencode, _⟩ := Except.bind_eq_ok.mp hrest
  rw [Schema.keyColumns_eq_ok_iff] at hkeys
  rw [merge_of_keyColumns aliasName hkeys hencode] at hmerge
  split at hmerge
  · cases hmerge
  · rename_i hfind
    cases hmerge
    refine ⟨keyColumns, columns, hkeys, hencode, fun column hmem => ?_, rfl⟩
    simpa using List.find?_eq_none.mp hfind column hmem

/-- Once the key columns are known, a merge fails as the encoding of the record does, and otherwise
    over the first of the key columns that the record does not have. -/
theorem merge_eq_error_iff (aliasName : String) {keys keyColumns : List String} {error : QueryError}
    (hkeys : model.schema.KeyColumns keys keyColumns) :
    model.merge aliasName record keys = .error error ↔
      model.encode record = .error error ∨
        ∃ columns missing, model.encode record = .ok columns ∧
          keyColumns.find? (fun column => column ∉ Fields.names columns) = some missing ∧
          error = .failure none "merge" (.missingKey model.schema.name missing) := by
  cases hencode : model.encode record with
  | error cause =>
    rw [merge, Schema.keyColumns_eq_ok_iff.mpr hkeys, hencode]
    simp [bind, Except.bind]
  | ok columns =>
    rw [merge_of_keyColumns aliasName hkeys hencode]
    split
    · rename_i missing hfind
      constructor
      · intro hfails
        cases hfails
        exact .inr ⟨columns, missing, rfl, hfind, rfl⟩
      · rintro (hfails | ⟨_, other, hcolumns, hother, rfl⟩)
        · cases hfails
        · cases hcolumns
          rw [hfind] at hother
          cases hother
          rfl
    · rename_i hfind
      constructor
      · intro hfails
        cases hfails
      · rintro (hfails | ⟨_, other, hcolumns, hother, _⟩)
        · cases hfails
        · cases hcolumns
          rw [hfind] at hother
          cases hother

theorem merge_eq_error_of_keys {aliasName : String} {keys : List String} {error : QueryError}
    (hkeys : model.schema.keyColumns keys = .error error) :
    model.merge aliasName record keys = .error error := by
  rw [merge, hkeys]
  rfl

/-- A merge of a record parts its columns in two: those that the record is looked up by, and all
    others, which are set whether or not it is found. Both keep the order of the columns. An
    undeclared key is found out first, then that the record cannot be encoded, and at last that a
    key column is missing. -/
theorem merge_partition (model : Model α) (aliasName : String) (record : α) (keys : List String) :
    (∀ clause, model.merge aliasName record keys = .ok clause →
      ∃ keyColumns columns, model.schema.KeyColumns keys keyColumns ∧
        model.encode record = .ok columns ∧
        ∃ matchOn others,
          clause = .merge (.node (.labelled aliasName model.schema.name [])) matchOn others others ∧
          matchOn = columns.filter (fun column => column.1 ∈ keyColumns) ∧
          others = columns.filter (fun column => column.1 ∉ keyColumns) ∧
          keyColumns ⊆ Fields.names matchOn ∧ ∀ column ∈ matchOn, column.2.isNull = false) ∧
      (∀ before key after, keys = before ++ key :: after →
        (∀ other ∈ before, (model.schema.property? other).isSome = true) →
        model.schema.property? key = none →
        model.merge aliasName record keys = .error (.undeclaredProperty model.schema.name key)) ∧
      (keys = [] → model.schema.primaryKey? = none →
        model.merge aliasName record keys =
          .error (.failure none "merge" (.noPrimaryKey model.schema.name))) ∧
      ((∀ key ∈ keys, (model.schema.property? key).isSome = true) →
        (keys = [] → model.schema.primaryKey?.isSome = true) →
        ∃ keyColumns, model.schema.KeyColumns keys keyColumns ∧
          ∀ error, model.merge aliasName record keys = .error error ↔
            model.encode record = .error error ∨
              ∃ columns missing, model.encode record = .ok columns ∧
                keyColumns.find? (fun column => column ∉ Fields.names columns) = some missing ∧
                error = .failure none "merge" (.missingKey model.schema.name missing)) := by
  refine ⟨fun clause hmerge => ?_, ?_, ?_, fun hdeclared hprimary => ?_⟩
  · obtain ⟨keyColumns, columns, hkeys, hencode, hfound, rfl⟩ := eq_of_merge_eq_ok hmerge
    refine ⟨keyColumns, columns, hkeys, hencode, _, _, rfl, rfl, rfl, fun column hmem => ?_,
      fun column hmem => present_of_encode hencode column (List.mem_filter.mp hmem).1⟩
    obtain ⟨entry, hentry, rfl⟩ := List.mem_map.mp (hfound column hmem)
    exact List.mem_map_of_mem (List.mem_filter.mpr ⟨hentry, by simpa using hmem⟩)
  · rintro before key after rfl hbefore hkey
    exact merge_eq_error_of_keys (Schema.keyColumns_eq_error_of_undeclared hbefore hkey)
  · rintro rfl hnone
    refine merge_eq_error_of_keys ?_
    simp [Schema.keyColumns, hnone, failWith]
  · obtain ⟨keyColumns, hkeys⟩ := Schema.exists_keyColumns hdeclared hprimary
    exact ⟨keyColumns, hkeys, fun error => merge_eq_error_iff aliasName hkeys⟩

end Model

theorem contacts_merge_partition :
    (∃ clause keyColumns matchOn others,
      contacts.merge "c" contactOfAda ["email", "email"] = .ok clause ∧
        contacts.schema.KeyColumns ["email", "email"] keyColumns ∧
        clause = .merge (.node (.labelled "c" "Contact" [])) matchOn others others ∧
        keyColumns ⊆ Fields.names matchOn) ∧
      contacts.merge "c" contactOfAda ["name", "mail", "post"] =
        .error (.undeclaredProperty "Contact" "mail") := by
  obtain ⟨hmade, _⟩ := contacts.merge_partition "c" contactOfAda ["email", "email"]
  obtain ⟨_, hundeclared, _⟩ :=
    contacts.merge_partition "c" contactOfAda ["name", "mail", "post"]
  obtain ⟨clause, hmerge⟩ := Except.exists_eq_ok
    (contacts.merge "c" contactOfAda ["email", "email"]) (by decide +kernel)
  obtain ⟨keyColumns, _, hkeys, _, matchOn, others, hclause, _, _, hfound, _⟩ :=
    hmade clause hmerge
  refine ⟨⟨clause, keyColumns, matchOn, others, hmerge, hkeys, hclause, hfound⟩, ?_⟩
  exact hundeclared ["name"] "mail" ["post"] rfl (by decide) (by decide)

end GraphQuery
