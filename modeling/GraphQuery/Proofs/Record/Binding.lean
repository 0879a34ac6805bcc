import GraphQuery.Proofs.Location
import GraphQuery.Proofs.Record.Reflexive
import GraphQuery.Proofs.Record.Writers
import Mathlib.Data.List.Nodup

namespace GraphQuery

open Token (inlineEntry)

/-- The clause that matches the nodes of a schema that have a value for a property. -/
def Schema.nodesWith (schema : Schema) (aliasName name : String) (v : Value) : Clause :=
  .matching false [.node (.mk (.ofSchema aliasName schema) [(name, .value v)] none)] none

variable {config : Config} {aliasName label : String} {columns : List (String × Value)}

/-- The parameters of columns that are inline properties of what an alias stands for. -/
def semanticEntries (aliasName : String) (columns : List (String × Value)) : Fields Value :=
  columns.map fun (column, v) => (Name.semantic aliasName column, v)

theorem mem_semanticEntries (aliasName : String) {column : String × Value}
    (hmem : column ∈ columns) :
    (Name.semantic aliasName column.1, column.2) ∈ semanticEntries aliasName columns :=
  List.mem_map_of_mem hmem

theorem names_semanticEntries (aliasName : String) (columns : List (String × Value)) :
    (semanticEntries aliasName columns).names =
      (Fields.names columns).map (Name.semantic aliasName) := by
  simp [semanticEntries, Fields.names, Function.comp_def]

/-- Columns with different names have different parameters. -/
theorem nodup_semanticEntries (aliasName : String) (hdistinct : (Fields.names columns).Nodup) :
    (semanticEntries aliasName columns).names.Nodup := by
  rw [names_semanticEntries]
  exact hdistinct.map fun _ _ heq => (Name.semantic_injective heq).2

theorem entries_shared (stem : String) (n : Nat) (aliasName : String)
    (columns : List (String × Value)) :
    Template.entries stem n (columns.map fun (column, v) => .shared aliasName column v) =
      semanticEntries aliasName columns := by
  induction columns generalizing n with
  | nil => rfl
  | cons column columns ih => exact congrArg (_ :: ·) (ih _)

theorem places_created (halias : aliasName.isEmpty = false) (label : String)
    (columns : List (String × Value)) :
    (Clause.create [.node (.labelled aliasName label columns)]).places =
      columns.map fun (column, v) => .shared aliasName column v := by
  have hproperties : ∀ columns : List (String × Value),
      propertyPlaces ⟨aliasName, some label, none⟩
        (columns.map fun (name, v) => (name, .value v)) =
          columns.map fun (column, v) => .shared aliasName column v := by
    intro columns
    induction columns with
    | nil => rfl
    | cons column columns ih =>
      rw [List.map_cons, propertyPlaces, ih]
      simp [Expr.value?, Template.inlineValue, halias, Head.columnFor]
  simp [Clause.places, patternPlaces, Pattern.places, NodePattern.labelled, NodePattern.places,
    hproperties, pairPlaces, allFilterPlaces, Pattern.filterPlaces, NodePattern.filterPlaces,
    filterPlaces]

namespace Schema

variable {schema : Schema}

theorem places_nodesWith (halias : aliasName.isEmpty = false) (name : String) (v : Value) :
    (schema.nodesWith aliasName name v).places =
      [.shared aliasName (schema.columnFor name) v] := by
  simp [nodesWith, Clause.places, patternPlaces, Pattern.places, NodePattern.places,
    propertyPlaces, Expr.value?, Template.inlineValue, Head.ofSchema, halias, Head.columnFor,
    pairPlaces, allFilterPlaces, Pattern.filterPlaces, NodePattern.filterPlaces, filterPlaces]

theorem property?_of_mem {property : Property}
    (hdistinct : (schema.properties.map (·.name)).Nodup) (hmem : property ∈ schema.properties) :
    schema.property? property.name = some property := by
  cases hfind : schema.property? property.name with
  | none => simpa using List.find?_eq_none.mp hfind property hmem
  | some found =>
    have hname : found.name = property.name := by simpa using List.find?_some hfind
    rw [List.inj_on_of_nodup_map hdistinct (List.mem_of_find?_eq_some hfind) hmem hname]

theorem exists_render_nodesWith (hstem : Name.IsStem config.parameterStem)
    (halias : Name.isIdentifier aliasName = true) (hlabel : schema.name ≠ "") {name : String}
    (hcolumn : schema.columnFor name ≠ "") (v : Value) :
    ∃ text after, (schema.nodesWith aliasName name v).render config {} = .ok text after := by
  have hready : InlineReady config.parameterStem aliasName [(schema.columnFor name, v)] {} :=
    ⟨by simpa using hcolumn, List.pairwise_singleton _ _, fun _ _ => rfl,
      Scope.numbered_empty _ 0⟩
  obtain ⟨after, ⟨p, _, hproperty, _, _⟩, _⟩ := exists_puts_inline hstem halias hready
  have hhead : Head.render (.ofSchema aliasName schema) =
      .ok (aliasName ++ (":" ++ Name.written schema.name)) := Head.render_labelled halias hlabel _
  have hproperties : renderProperties config (.ofSchema aliasName schema) [(name, .value v)] {} =
      .ok [inlineEntry (schema.columnFor name, p)] after := by
    rw [renderProperties]
    simp only [RenderM.bind_eq_ok, RenderM.pure_eq_ok, renderProperties]
    exact ⟨_, _, hproperty, _, _, ⟨rfl, rfl⟩, rfl, rfl⟩
  obtain ⟨text, hnode⟩ : ∃ text,
      (Pattern.node (.mk (.ofSchema aliasName schema) [(name, .value v)] none)).render config []
        {} = .ok text after := by
    rw [Pattern.render, NodePattern.render, hhead]
    simp only [RenderM.bind_eq_ok, RenderM.pure_eq_ok, RenderM.lift_eq_ok]
    exact ⟨_, _, _, ⟨rfl, rfl⟩, _, _, hproperties, [], _, rfl, rfl, rfl⟩
  refine ⟨"MATCH " ++ Text.commaJoin [text] ++ whereText [], after, ?_⟩
  rw [nodesWith, Clause.render, RenderM.unless_fail_eq_ok]
  simp only [renderPatterns, renderAllFilters, Pattern.renderFilters, NodePattern.renderFilters,
    renderFilter, RenderM.bind_eq_ok, RenderM.pure_eq_ok]
  exact ⟨by simp, _, _, ⟨_, _, hnode, _, _, ⟨rfl, rfl⟩, rfl, rfl⟩, _, _,
    ⟨_, _, ⟨rfl, rfl⟩, _, _, ⟨rfl, rfl⟩, rfl, rfl⟩, _, _, ⟨rfl, rfl⟩, rfl, rfl⟩

end Schema

/-- A node that is matched by a value for a property and a node that is created under the same alias
    share the parameter of one column. It keeps the value of the first one if both are equal, and is
    in conflict otherwise. -/
theorem compile_nodesWith_created {schema : Schema} {name column : String} {v w : Value}
    (hvalid : config.validate = .ok ()) (halias : Name.isIdentifier aliasName = true)
    (hname : schema.name ≠ "") (hlabel : label ≠ "") (hcolumn : schema.columnFor name = column)
    (hnames : ∀ column ∈ columns, column.1 ≠ "") (hdistinct : (Fields.names columns).Nodup)
    (hvalue : (column, w) ∈ columns) :
    (v.equals w = true → ∃ statement,
      compile config [schema.nodesWith aliasName name v,
        .create [.node (.labelled aliasName label columns)]] = .ok statement ∧
      ∀ name', statement.bindings.get? name' =
        if name' = Name.semantic aliasName column then some v
        else (semanticEntries aliasName columns).get? name') ∧
    (v.equals w = false →
      compile config [schema.nodesWith aliasName name v,
        .create [.node (.labelled aliasName label columns)]] =
          .error (.conflict (some 1) (Name.semantic aliasName column) v w)) := by
  have hstem := Name.isStem_of_validate hvalid
  have hnonempty := Name.isEmpty_of_isIdentifier halias
  have hfilled : schema.columnFor name ≠ "" := hcolumn ▸ hnames _ hvalue
  obtain ⟨front, middle, hfront⟩ := Schema.exists_render_nodesWith hstem halias hname hfilled v
  obtain ⟨entries, inner, hback, _⟩ := exists_render_created hstem halias hlabel
    ⟨hnames, hdistinct, fun _ _ => rfl, Scope.numbered_empty _ middle.count⟩
  have hsingle := Clause.extends_of_render hfront
  have hinner := Clause.extends_of_render hback
  rw [Schema.places_nodesWith hnonempty, hcolumn] at hsingle
  rw [places_created hnonempty, entries_shared] at hinner
  have hshared := Fields.get?_of_mem (nodup_semanticEntries aliasName hdistinct)
    (mem_semanticEntries aliasName hvalue)
  obtain ⟨hmerged, hconflict⟩ := Bindings.merge_single hsingle ((hinner _).trans hshared)
  rw [compile_pair hvalid rfl rfl hfront hback]
  constructor
  · intro hequals
    obtain ⟨merged, hmerge⟩ := hmerged hequals
    rw [hmerge]
    exact ⟨_, rfl, Bindings.get?_of_merge_single hsingle hinner hmerge⟩
  · intro hequals
    obtain ⟨merged, hmerge⟩ := hconflict hequals
    rw [hmerge]
    rfl

namespace Model

variable {α : Type}

/-- A record without undeclared fields has no other columns than those of its properties. -/
theorem exists_declared_of_encode {model : Model α} {record : α} {fields : Fields Json}
    (hserialize : model.serialize record = .ok (.object fields))
    (hdeclared : ∀ name ∈ fields.names, name ∈ model.schema.properties.map (·.name))
    (hencode : model.encode record = .ok columns) :
    ∃ rest, Record.Declared model.schema fields model.schema.properties columns rest := by
  simp only [encode, hserialize, Json.asObject?, Except.bind_eq_ok, Prod.exists] at hencode
  obtain ⟨declared, rest, hcolumns, heq⟩ := hencode
  have hcolumns := Record.declared_of_encodeDeclared hcolumns
  have hrest : rest = [] := by
    rw [hcolumns.rest_eq, List.filter_eq_nil_iff]
    intro field hmem
    simpa using hdeclared field.1 (List.mem_map_of_mem hmem)
  rw [hrest, Record.encodeUndeclared, List.filterMap_nil, List.append_nil] at heq
  cases heq
  exact ⟨rest, hcolumns⟩

/-- A node that is matched by a value for a property and then created from a record under the same
    alias shares the parameter of the column of the property. The values have to be equal, and the
    parameters are then those of the columns of the record; a conflict is reported otherwise. -/
theorem create_shares_parameter (model : Model α) (config : Config) (aliasName : String)
    (record : α) (fields : Fields Json) (columns : List (String × Value)) (property : Property)
    (v w : Value) (hvalid : config.validate = .ok ())
    (halias : Name.isIdentifier aliasName = true) (hname : model.schema.name ≠ "")
    (hnames : (model.schema.properties.map (·.name)).Nodup)
    (hcolumns : (model.schema.properties.map (·.columnName)).Nodup)
    (hnonempty : ∀ property ∈ model.schema.properties, property.columnName ≠ "")
    (hserialize : model.serialize record = .ok (.object fields))
    (hdeclared : ∀ name ∈ fields.names, name ∈ model.schema.properties.map (·.name))
    (hencode : model.encode record = .ok columns) (hproperty : property ∈ model.schema.properties)
    (hvalue : (property.columnName, w) ∈ columns) :
    ∃ creation, model.create aliasName record = .ok creation ∧
      ((∃ statement, compile config
          [model.schema.nodesWith aliasName property.name v, creation] = .ok statement) ↔
        v.equals w = true) ∧
      (∀ statement, compile config
          [model.schema.nodesWith aliasName property.name v, creation] = .ok statement →
        statement.bindings.table.names.Perm
            ((Fields.names columns).map (Name.semantic aliasName)) ∧
          ∀ column ∈ columns, ∃ u,
            statement.bindings.get? (Name.semantic aliasName column.1) = some u ∧
              u.equals column.2 = true) ∧
      (v.equals w = false →
        compile config [model.schema.nodesWith aliasName property.name v, creation] =
          .error (.conflict (some 1) (Name.semantic aliasName property.columnName) v w)) := by
  obtain ⟨rest, hrecord⟩ := exists_declared_of_encode hserialize hdeclared hencode
  have hdistinct := hrecord.names_sublist.nodup hcolumns
  have hfilled : ∀ column ∈ columns, column.1 ≠ "" := by
    intro column hmem
    obtain ⟨other, hother, heq⟩ :=
      List.mem_map.mp (hrecord.names_sublist.subset (List.mem_map_of_mem hmem))
    exact heq ▸ hnonempty other hother
  have hcolumn : model.schema.columnFor property.name = property.columnName := by
    rw [Schema.columnFor, Schema.property?_of_mem hnames hproperty]
  have hparameters := nodup_semanticEntries aliasName hdistinct
  have hshared := mem_semanticEntries aliasName hvalue
  obtain ⟨hagree, hconflict⟩ :=
    compile_nodesWith_created hvalid halias hname hname hcolumn hfilled hdistinct hvalue
  refine ⟨_, by rw [create, hencode]; rfl, ?_⟩
  cases hequals : v.equals w with
  | true =>
    obtain ⟨statement, hcompile, hget⟩ := hagree hequals
    rw [hcompile]
    refine ⟨by simp, ?_, fun hfalse => by cases hfalse⟩
    rintro _ ⟨rfl⟩
    refine ⟨?_, fun column hmem => ?_⟩
    · rw [← names_semanticEntries]
      exact Bindings.names_perm_of_get? hget hparameters (List.mem_map_of_mem hshared)
    · have hbound := Fields.get?_of_mem hparameters (mem_semanticEntries aliasName hmem)
      rw [hget]
      split
      · rename_i heq
        rw [heq, Fields.get?_of_mem hparameters hshared] at hbound
        cases hbound
        exact ⟨v, rfl, hequals⟩
      · exact ⟨column.2, hbound, hrecord.equals_self column hmem⟩
  | false =>
    rw [hconflict hequals]
    refine ⟨by simp, ?_, fun _ => rfl⟩
    rintro _ ⟨⟩

end Model

/-- What is given in an exchange is held by the column "take", so that this is the one that a
    pattern shares with the record. -/
theorem exchanges_share_parameter :
    ∃ creation, exchanges.create "e" stampsForCoins = .ok creation ∧
      (∃ statement,
        compile (.plain {}) [exchanges.schema.nodesWith "e" "give" (.string "stamps"), creation] =
          .ok statement ∧
        statement.bindings.table.names.Perm ["e_code", "e_take", "e_give"]) ∧
      compile (.plain {}) [exchanges.schema.nodesWith "e" "give" (.string "coins"), creation] =
        .error (.conflict (some 1) "e_take" (.string "coins") (.string "stamps")) := by
  have hshared := fun v => exchanges.create_shares_parameter (.plain {}) "e" stampsForCoins
    [("code", .string "x1"), ("give", .string "stamps"), ("take", .string "coins")]
    [("code", .string "x1"), ("take", .string "stamps"), ("give", .string "coins")]
    { name := "give", column := some "take", kind := .string } v (.string "stamps") rfl (by decide)
    (by decide) (by decide) (by decide) (by decide) rfl (by decide) rfl (by simp [exchanges])
    (by simp [PropertyOf.columnName])
  obtain ⟨creation, hcreate, hagree, hparameters, -⟩ := hshared (.string "stamps")
  obtain ⟨_, hcreate', -, -, hconflict⟩ := hshared (.string "coins")
  cases hcreate.symm.trans hcreate'
  obtain ⟨statement, hcompile⟩ := hagree.mpr rfl
  exact ⟨creation, hcreate, ⟨statement, hcompile, (hparameters statement hcompile).1⟩,
    hconflict rfl⟩

end GraphQuery
