import GraphQuery.Proofs.Composition
import GraphQuery.Proofs.Name.Semantic
import GraphQuery.Proofs.Record.Partition
import GraphQuery.Proofs.Statement.Entries

namespace GraphQuery

open Token (inlineEntry assignmentEntry nodeText branchText)

variable {config : Config} {before after : Scope} {aliasName label : String}
  {columns : List (String × Value)}

/-- A name that is not bound can be bound, and nothing else changes. -/
theorem Scope.exists_bind_of_free {name : String} (v : Value)
    (hfree : before.bindings.get? name = none) :
    ∃ bindings, Scope.bind name v before = .ok () ⟨before.count, bindings⟩ ∧
      before.bindings.Extends [(name, v)] bindings ∧ bindings.get? name = some v := by
  have hbind : ∃ bindings, before.bindings.bind name v = .ok bindings := by
    rw [Bindings.bind, hfree]
    exact ⟨_, rfl⟩
  obtain ⟨bindings, hbind⟩ := hbind
  have hextends := Bindings.extends_of_bind hbind
  refine ⟨bindings, ?_, hextends, ?_⟩
  · rw [Scope.bind, hbind]
  · rw [hextends, hfree, Option.none_or, Fields.get?_cons, if_pos rfl]

/-- What is bound stays bound. -/
def Bindings.Keeps (before after : Bindings) : Prop :=
  ∀ name v, before.get? name = some v → after.get? name = some v

theorem Bindings.Extends.keeps {before after : Bindings} {entries : Fields Value}
    (hextends : before.Extends entries after) : before.Keeps after := by
  intro name v hget
  rw [hextends, hget, Option.some_or]

theorem Bindings.Keeps.trans {before middle after : Bindings} (hfirst : before.Keeps middle)
    (hsecond : middle.Keeps after) : before.Keeps after :=
  fun name v hget => hsecond name v (hfirst name v hget)

theorem Bindings.Keeps.holds {before after : Bindings} {entries : List (String × String)}
    (hkeeps : before.Keeps after) (hholds : List.Forall₂ before.Holds entries columns) :
    List.Forall₂ after.Holds entries columns :=
  hholds.imp fun _ _ hentry =>
    ⟨hentry.column_eq, hentry.isIdentifier, hkeeps _ _ hentry.get?_eq⟩

/-- One column is written with a parameter of its value. -/
def Puts (part : RenderM String) (text : String × String → String) (column : String × Value)
    (before after : Scope) : Prop :=
  ∃ p, Name.isIdentifier p = true ∧ part before = .ok (text (column.1, p)) after ∧
    before.bindings.Keeps after.bindings ∧ after.bindings.get? p = some column.2

/-- Columns are written one after the other, each with a parameter of its value. -/
def PutsAll (part : RenderM (List String)) (text : String × String → String)
    (columns : List (String × Value)) (before after : Scope) : Prop :=
  ∃ entries, part before = .ok (entries.map text) after ∧
    before.bindings.Keeps after.bindings ∧ List.Forall₂ after.bindings.Holds entries columns

/-- If the first of some columns can be written wherever all of them are ready to be, and the others
    are ready then, all of them can be written. -/
theorem exists_putsAll {part : String × Value → RenderM String}
    {text : String × String → String} {Ready : List (String × Value) → Scope → Prop}
    (hstep : ∀ column columns before, Ready (column :: columns) before →
      ∃ after, Puts (part column) text column before after ∧ Ready columns after)
    (hready : Ready columns before) :
    ∃ after, PutsAll (columns.mapM part) text columns before after ∧ Ready [] after := by
  induction columns generalizing before with
  | nil => exact ⟨before, ⟨[], rfl, fun _ _ hget => hget, .nil⟩, hready⟩
  | cons column columns ih =>
    obtain ⟨middle, ⟨p, hidentifier, hfirst, hkeeps, hvalue⟩, hready⟩ := hstep _ _ _ hready
    obtain ⟨after, ⟨entries, hrest, hkept, hholds⟩, hready⟩ := ih hready
    refine ⟨after, ⟨(column.1, p) :: entries, ?_, hkeeps.trans hkept, ?_⟩, hready⟩
    · simp only [List.mapM_cons, RenderM.bind_eq_ok, RenderM.pure_eq_ok]
      exact ⟨_, middle, hfirst, _, _, hrest, rfl, rfl⟩
    · exact .cons ⟨rfl, hidentifier, hkept _ _ hvalue⟩ hholds

/-- Columns of an alias can be written as inline properties: their shared names are still free. -/
structure InlineReady (stem aliasName : String) (columns : List (String × Value))
    (scope : Scope) : Prop where
  ne_empty : ∀ column ∈ columns, column.1 ≠ ""
  nodup : (Fields.names columns).Nodup
  free : ∀ column ∈ columns, scope.bindings.get? (Name.semantic aliasName column.1) = none
  numbered : scope.Numbered stem

/-- Columns can be written as assignments: the anonymous names to come are still free. -/
structure AssignmentReady (stem : String) (columns : List (String × Value)) (scope : Scope) :
    Prop where
  ne_empty : ∀ column ∈ columns, column.1 ≠ ""
  numbered : scope.Numbered stem

theorem exists_puts_inline (hstem : Name.IsStem config.parameterStem)
    (halias : Name.isIdentifier aliasName = true) {column : String × Value}
    (hready : InlineReady config.parameterStem aliasName (column :: columns) before) :
    ∃ after,
      Puts (renderInline column.1 (bindInline config aliasName column.1 column.2)) inlineEntry
        column before after ∧
      InlineReady config.parameterStem aliasName columns after := by
  obtain ⟨bindings, hbind, hextends, hvalue⟩ :=
    Scope.exists_bind_of_free column.2 (hready.free column List.mem_cons_self)
  have hnonempty := Name.isEmpty_of_isIdentifier halias
  have hput : Puts (renderInline column.1 (bindInline config aliasName column.1 column.2))
      inlineEntry column before ⟨before.count, bindings⟩ := by
    refine ⟨Name.semantic aliasName column.1, Name.isIdentifier_semantic halias column.1, ?_,
      hextends.keeps, hvalue⟩
    rw [renderInline, bindInline, hnonempty, if_neg Bool.false_ne_true]
    simp only [Scope.bindSemantic, RenderM.bind_eq_ok, RenderM.pure_eq_ok, RenderM.lift_eq_ok]
    exact ⟨_, _, ⟨(), _, hbind, rfl, rfl⟩, _, _,
      ⟨Name.write_of_ne_empty _ (hready.ne_empty column List.mem_cons_self), rfl⟩, rfl, rfl⟩
  refine ⟨⟨before.count, bindings⟩, hput, ?_, ?_, ?_, ?_⟩
  · exact fun other hmem => hready.ne_empty other (List.mem_cons_of_mem _ hmem)
  · exact (List.nodup_cons.mp hready.nodup).2
  · intro other hmem
    have hother : other.1 ≠ column.1 := by
      intro heq
      exact (List.nodup_cons.mp hready.nodup).1 (List.mem_map.mpr ⟨other, hmem, heq⟩)
    have hname : Name.semantic aliasName other.1 ≠ Name.semantic aliasName column.1 :=
      fun heq => hother (Name.semantic_injective heq).2
    rw [hextends, hready.free other (List.mem_cons_of_mem _ hmem), Option.none_or,
      Fields.get?_cons, if_neg hname, Fields.get?_nil]
  · refine hready.numbered.of_extends (Nat.le_refl _) hextends fun entry hmem hanonymous => ?_
    rw [List.mem_singleton.mp hmem, Name.isAnonymous_semantic hstem] at hanonymous
    cases hanonymous

theorem exists_puts_assignment (hstem : Name.IsStem config.parameterStem)
    {part : RenderM String} {column : String × Value}
    (hpart : ∀ name after, Scope.bindAnonymous config column.2 before =
      .ok (Name.placeholder name) after →
        part before = .ok (assignmentEntry aliasName (column.1, name)) after)
    (hready : AssignmentReady config.parameterStem (column :: columns) before) :
    ∃ after, Puts part (assignmentEntry aliasName) column before after ∧
      AssignmentReady config.parameterStem columns after := by
  let reserved : Scope := ⟨before.count + 1, before.bindings⟩
  obtain ⟨bindings, hbind, hextends, hvalue⟩ :=
    Scope.exists_bind_of_free column.2 (show reserved.bindings.get? _ = none from
      hready.numbered.get?_next)
  have hanonymous : Scope.bindAnonymous config column.2 before =
      .ok (Name.placeholder (Name.anonymous config.parameterStem (before.count + 1)))
        ⟨before.count + 1, bindings⟩ := by
    simp only [Scope.bindAnonymous, RenderM.bind_eq_ok, RenderM.pure_eq_ok]
    exact ⟨_, reserved, rfl, (), _, hbind, rfl, rfl⟩
  refine ⟨⟨before.count + 1, bindings⟩, ⟨_, Name.isIdentifier_anonymous hstem _,
    hpart _ _ hanonymous, hextends.keeps, hvalue⟩, ?_, ?_⟩
  · exact fun other hmem => hready.ne_empty other (List.mem_cons_of_mem _ hmem)
  · refine hready.numbered.of_extends (Nat.le_succ _) hextends fun entry hmem _ => ?_
    rw [List.mem_singleton.mp hmem]
    exact ⟨before.count + 1, Nat.le_refl _, rfl⟩

theorem Name.checkAlias_of_isIdentifier (component : String)
    (halias : Name.isIdentifier aliasName = true) :
    Name.checkAlias component aliasName = .ok () := by
  rw [Name.checkAlias, Name.isEmpty_of_isIdentifier halias, if_pos halias]
  rfl

theorem Head.render_labelled (halias : Name.isIdentifier aliasName = true) (hlabel : label ≠ "")
    (schema : Option Schema) :
    Head.render ⟨aliasName, some label, schema⟩ =
      .ok (aliasName ++ (":" ++ Name.written label)) := by
  rw [Head.render, Name.isEmpty_of_isIdentifier halias, Head.labelText,
    Name.checkAlias_of_isIdentifier _ halias, Name.write_of_ne_empty _ hlabel]
  rfl

/-- Without a schema, properties that are all values are written under their own names. -/
theorem renderProperties_values (head : Head) (columns : List (String × Value)) :
    renderProperties config head (columns.map fun (name, v) => (name, .value v)) =
      renderPairs config head columns := by
  induction columns with
  | nil => rfl
  | cons column columns ih =>
    rw [List.map_cons, renderProperties, ih, renderPairs, renderPairs, List.mapM_cons]
    rfl

/-- A node is written with the properties of its own and then with further ones. -/
theorem Pattern.render_labelled {middle : Scope} {own further : List (String × Value)}
    {entries more : List (String × String)} (halias : Name.isIdentifier aliasName = true)
    (hlabel : label ≠ "")
    (hown : renderPairs config ⟨aliasName, some label, none⟩ own before =
      .ok (entries.map inlineEntry) middle)
    (hfurther : renderPairs config ⟨aliasName, some label, none⟩ further middle =
      .ok (more.map inlineEntry) after) :
    (Pattern.node (.labelled aliasName label own)).render config further before =
      .ok (nodeText aliasName label (entries ++ more)) after := by
  rw [Pattern.render, NodePattern.labelled, NodePattern.render, renderProperties_values,
    Head.render_labelled halias hlabel none]
  simp only [RenderM.bind_eq_ok, RenderM.pure_eq_ok, RenderM.lift_eq_ok]
  refine ⟨_, _, ⟨rfl, rfl⟩, _, _, hown, _, _, hfurther, ?_, rfl⟩
  rw [nodeText, List.map_append]

theorem exists_putsAll_inline (hstem : Name.IsStem config.parameterStem)
    (halias : Name.isIdentifier aliasName = true) (label : String)
    (hready : InlineReady config.parameterStem aliasName columns before) :
    ∃ after, PutsAll (renderPairs config ⟨aliasName, some label, none⟩ columns) inlineEntry columns
        before after ∧
      after.Numbered config.parameterStem := by
  obtain ⟨after, hputs, hready⟩ :=
    exists_putsAll (fun _ _ _ => exists_puts_inline hstem halias) hready
  exact ⟨after, hputs, hready.numbered⟩

/-- Assignments of values to columns of an alias are written one after the other. -/
theorem exists_putsAll_assignments (hstem : Name.IsStem config.parameterStem)
    (halias : Name.isIdentifier aliasName = true)
    (hready : AssignmentReady config.parameterStem columns before) :
    ∃ after,
      PutsAll (columns.mapM fun column =>
          Assignment.render config ⟨⟨aliasName, column.1⟩, .value column.2⟩)
        (assignmentEntry aliasName) columns before after := by
  refine (exists_putsAll (fun column columns before hready => ?_) hready).imp fun _ => And.left
  refine exists_puts_assignment hstem (fun name after hanonymous => ?_) hready
  have htarget : Reference.render ⟨aliasName, column.1⟩ =
      .ok (aliasName ++ "." ++ Name.written column.1) := by
    rw [Reference.render, Name.checkAlias_of_isIdentifier _ halias]
    simp [hready.ne_empty column List.mem_cons_self, bind, Except.bind, pure, Except.pure]
  simp only [Assignment.render, Update.render, RenderM.bind_eq_ok, RenderM.pure_eq_ok,
    RenderM.lift_eq_ok]
  exact ⟨_, _, ⟨htarget, rfl⟩, _, _, hanonymous, rfl, rfl⟩

/-- The assignments of a branch of a merge are written one after the other. -/
theorem exists_putsAll_branch (hstem : Name.IsStem config.parameterStem) {pattern : Pattern}
    (hschema : pattern.schema? = none)
    (hready : AssignmentReady config.parameterStem columns before) :
    ∃ after,
      PutsAll (columns.mapM fun column => pattern.renderAssignment config column.1 column.2)
        (assignmentEntry pattern.aliasName) columns before after ∧
      after.Numbered config.parameterStem := by
  have hputs : ∃ after,
      PutsAll (columns.mapM fun column => pattern.renderAssignment config column.1 column.2)
        (assignmentEntry pattern.aliasName) columns before after ∧
      AssignmentReady config.parameterStem [] after := by
    refine exists_putsAll (fun column columns before hready => ?_) hready
    refine exists_puts_assignment hstem (fun name after hanonymous => ?_) hready
    have hcolumn : Name.write "merge" (pattern.columnFor column.1) =
        .ok (Name.written column.1) := by
      rw [Pattern.columnFor, hschema]
      exact Name.write_of_ne_empty _ (hready.ne_empty column List.mem_cons_self)
    simp only [Pattern.renderAssignment, RenderM.bind_eq_ok, RenderM.pure_eq_ok,
      RenderM.lift_eq_ok]
    exact ⟨_, _, hanonymous, _, _, ⟨hcolumn, rfl⟩, rfl, rfl⟩
  obtain ⟨after, hputs, hready⟩ := hputs
  exact ⟨after, hputs, hready.numbered⟩

/-- A branch of a merge is written, also if there is nothing to assign in it. -/
theorem exists_branch (hstem : Name.IsStem config.parameterStem) (pattern : Pattern)
    (hschema : pattern.schema? = none) (halias : Name.isIdentifier pattern.aliasName = true)
    (keyword : String) (hready : AssignmentReady config.parameterStem columns before) :
    ∃ entries after,
      pattern.renderBranch config keyword columns before =
        .ok (branchText keyword pattern.aliasName entries) after ∧
      before.bindings.Keeps after.bindings ∧
      List.Forall₂ after.bindings.Holds entries columns ∧
      after.Numbered config.parameterStem := by
  obtain ⟨after, ⟨entries, hwrite, hkeeps, hholds⟩, hnumbered⟩ :=
    exists_putsAll_branch hstem hschema hready
  refine ⟨entries, after, ?_, hkeeps, hholds, hnumbered⟩
  rw [Pattern.renderBranch, branchText]
  cases hholds with
  | nil =>
    obtain ⟨-, rfl⟩ := RenderM.pure_eq_ok.mp hwrite
    rfl
  | cons hentry hrest =>
    rw [if_neg (by simp), if_neg (by simp [halias]), if_neg (by simp)]
    simp only [RenderM.bind_eq_ok, RenderM.pure_eq_ok]
    exact ⟨_, _, hwrite, rfl, rfl⟩

/-- The clause that creates a node is written wherever its columns are ready to be. -/
theorem exists_render_created (hstem : Name.IsStem config.parameterStem)
    (halias : Name.isIdentifier aliasName = true) (hlabel : label ≠ "")
    (hready : InlineReady config.parameterStem aliasName columns before) :
    ∃ entries after,
      (Clause.create [.node (.labelled aliasName label columns)]).render config before =
        .ok ("CREATE " ++ nodeText aliasName label entries) after ∧
      List.Forall₂ after.bindings.Holds entries columns := by
  obtain ⟨after, ⟨entries, hwrite, -, hholds⟩, -⟩ :=
    exists_putsAll_inline hstem halias label hready
  have hnone : renderPairs config ⟨aliasName, some label, none⟩ [] after =
      .ok ([].map inlineEntry) after := rfl
  have hnode := Pattern.render_labelled halias hlabel hwrite hnone
  rw [List.append_nil] at hnode
  refine ⟨entries, after, ?_, hholds⟩
  rw [Clause.render, RenderM.unless_fail_eq_ok]
  simp only [renderCreated, RenderM.bind_eq_ok, RenderM.pure_eq_ok, RenderM.lift_eq_ok]
  refine ⟨by simp, _, _, ⟨(), _, ⟨rfl, rfl⟩, _, _, hnode, _, _, ⟨rfl, rfl⟩, rfl, rfl⟩, ?_, rfl⟩
  rw [Text.commaJoin, String.intercalate_singleton]

/-- A node is created with columns that have different names. -/
theorem exists_created (hvalid : config.validate = .ok ())
    (halias : Name.isIdentifier aliasName = true) (hlabel : label ≠ "") (hne : columns ≠ [])
    (hnames : ∀ column ∈ columns, column.1 ≠ "") (hdistinct : (Fields.names columns).Nodup) :
    ∃ statement,
      compile config [.create [.node (.labelled aliasName label columns)]] = .ok statement ∧
      statement.created? aliasName label = some columns := by
  have hready : InlineReady config.parameterStem aliasName columns {} :=
    ⟨hnames, hdistinct, fun _ _ => rfl, Scope.numbered_empty _ 0⟩
  obtain ⟨entries, after, hrender, hholds⟩ :=
    exists_render_created (Name.isStem_of_validate hvalid) halias hlabel hready
  refine ⟨_, compile_of_render hvalid rfl hrender, ?_⟩
  exact Statement.created?_eq halias hne rfl hholds

/-- Columns are assigned one after the other. -/
theorem exists_assigned (hvalid : config.validate = .ok ())
    (halias : Name.isIdentifier aliasName = true) (hne : columns ≠ [])
    (hnames : ∀ column ∈ columns, column.1 ≠ "") :
    ∃ statement,
      compile config [.set (columns.map fun (name, v) => ⟨⟨aliasName, name⟩, .value v⟩)] =
        .ok statement ∧
      statement.assigned? aliasName = some columns := by
  have hready : AssignmentReady config.parameterStem columns {} :=
    ⟨hnames, Scope.numbered_empty _ 0⟩
  obtain ⟨after, entries, hwrite, -, hholds⟩ :=
    exists_putsAll_assignments (Name.isStem_of_validate hvalid) halias hready
  have hrender :
      (Clause.set (columns.map fun (name, v) => ⟨⟨aliasName, name⟩, .value v⟩)).render config {} =
        .ok ("SET " ++ Text.commaJoin (entries.map (assignmentEntry aliasName))) after := by
    rw [Clause.render, RenderM.unless_fail_eq_ok, List.mapM_map]
    simp only [RenderM.bind_eq_ok, RenderM.pure_eq_ok]
    exact ⟨by simpa using hne, _, _, hwrite, rfl, rfl⟩
  refine ⟨_, compile_of_render hvalid rfl hrender, ?_⟩
  exact Statement.assigned?_eq halias hne rfl hholds

/-- A node is merged by some columns, and others are assigned in either branch. -/
theorem exists_merged {matchOn onCreate onMatch : List (String × Value)}
    (hvalid : config.validate = .ok ()) (halias : Name.isIdentifier aliasName = true)
    (hlabel : label ≠ "") (hne : matchOn ≠ [])
    (hmatchOn : ∀ column ∈ matchOn, column.1 ≠ "")
    (honCreate : ∀ column ∈ onCreate, column.1 ≠ "")
    (honMatch : ∀ column ∈ onMatch, column.1 ≠ "")
    (hdistinct : (Fields.names matchOn).Nodup) :
    ∃ statement,
      compile config [.merge (.node (.labelled aliasName label [])) matchOn onCreate onMatch] =
        .ok statement ∧
      statement.merged? aliasName label = some (matchOn, onCreate, onMatch) := by
  have hstem := Name.isStem_of_validate hvalid
  have hready : InlineReady config.parameterStem aliasName matchOn {} :=
    ⟨hmatchOn, hdistinct, fun _ _ => rfl, Scope.numbered_empty _ 0⟩
  obtain ⟨inner, ⟨entries, hwrite, -, hholds⟩, hnumbered⟩ :=
    exists_putsAll_inline hstem halias label hready
  have hnone : renderPairs config ⟨aliasName, some label, none⟩ [] {} =
      .ok ([].map inlineEntry) {} := rfl
  have hnode := Pattern.render_labelled halias hlabel hnone hwrite
  obtain ⟨created, middle, hcreate, hkeeps, hcreated, hnumbered⟩ :=
    exists_branch hstem (.node (.labelled aliasName label [])) rfl halias "ON CREATE SET"
      ⟨honCreate, hnumbered⟩
  obtain ⟨matched, after, hmatch, hkeeps', hmatched, -⟩ :=
    exists_branch hstem (.node (.labelled aliasName label [])) rfl halias "ON MATCH SET"
      ⟨honMatch, hnumbered⟩
  have hrender : (Clause.merge (.node (.labelled aliasName label [])) matchOn onCreate
      onMatch).render config {} =
      .ok ("MERGE " ++ nodeText aliasName label entries ++
        branchText "ON CREATE SET" aliasName created ++
          branchText "ON MATCH SET" aliasName matched) after := by
    rw [Clause.render]
    simp only [RenderM.bind_eq_ok, RenderM.pure_eq_ok, RenderM.lift_eq_ok]
    exact ⟨(), _, ⟨rfl, rfl⟩, _, _, hnode, _, _, hcreate, _, _, hmatch, rfl, rfl⟩
  refine ⟨_, compile_of_render hvalid rfl hrender, ?_⟩
  exact Statement.merged?_eq halias hne rfl
    ((hkeeps.trans hkeeps').holds hholds) (hkeeps'.holds hcreated) hmatched

namespace Model

variable {α : Type}

/-- The clauses that write a record agree on its columns and their values. The one that creates a
    node and the one that assigns the columns have them in the order of the encoding; the one that
    merges a node has each of them in either branch, as one that the node is looked up by or as one
    that is assigned. -/
theorem writers_agree (model : Model α) (config : Config) (aliasName : String) (record : α)
    (columns : List (String × Value)) (hvalid : config.validate = .ok ())
    (hname : model.schema.name ≠ "") (halias : Name.isIdentifier aliasName = true)
    (hencode : model.encode record = .ok columns) (hne : columns ≠ [])
    (hnames : ∀ name ∈ Fields.names columns, name ≠ "")
    (hdistinct : (Fields.names columns).Nodup) :
    (∃ clause statement, model.create aliasName record = .ok clause ∧
      compile config [clause] = .ok statement ∧
      statement.created? aliasName model.schema.name = some columns) ∧
    (∃ assignments statement, model.assign aliasName record = .ok assignments ∧
      compile config [.set assignments] = .ok statement ∧
      statement.assigned? aliasName = some columns) ∧
    ∀ keys clause, model.merge aliasName record keys = .ok clause →
      ∃ statement matchOn onCreate onMatch, compile config [clause] = .ok statement ∧
        statement.merged? aliasName model.schema.name = some (matchOn, onCreate, onMatch) ∧
        (matchOn ++ onCreate).Perm columns ∧ (matchOn ++ onMatch).Perm columns := by
  have hcolumns : ∀ column ∈ columns, column.1 ≠ "" :=
    fun column hmem => hnames column.1 (List.mem_map_of_mem hmem)
  refine ⟨?_, ?_, ?_⟩
  · obtain ⟨statement, hcompile, hread⟩ :=
      exists_created hvalid halias hname hne hcolumns hdistinct
    refine ⟨_, statement, ?_, hcompile, hread⟩
    rw [create, hencode]
    rfl
  · obtain ⟨statement, hcompile, hread⟩ := exists_assigned hvalid halias hne hcolumns
    refine ⟨_, statement, ?_, hcompile, hread⟩
    rw [assign, hencode]
    rfl
  · intro keys clause hmerge
    obtain ⟨keyColumns, encoded, hkeys, hencoded, hfound, rfl⟩ := eq_of_merge_eq_ok hmerge
    obtain rfl : encoded = columns := Except.ok.inj (hencoded.symm.trans hencode)
    have hperm : (encoded.filter (fun column => column.1 ∈ keyColumns) ++
        encoded.filter (fun column => column.1 ∉ keyColumns)).Perm encoded := by
      simpa using List.filter_append_perm (fun column => decide (column.1 ∈ keyColumns)) encoded
    have hmatchOn : encoded.filter (fun column => column.1 ∈ keyColumns) ≠ [] := by
      obtain ⟨column, hmem⟩ := List.exists_mem_of_ne_nil _ hkeys.ne_nil
      obtain ⟨entry, hentry, rfl⟩ := List.mem_map.mp (hfound column hmem)
      exact List.ne_nil_of_mem (List.mem_filter.mpr ⟨hentry, by simpa using hmem⟩)
    have hkept : ∀ column ∈ encoded.filter (fun column => column.1 ∈ keyColumns), column.1 ≠ "" :=
      fun column hmem => hcolumns column (List.mem_filter.mp hmem).1
    have hothers : ∀ column ∈ encoded.filter (fun column => column.1 ∉ keyColumns),
        column.1 ≠ "" :=
      fun column hmem => hcolumns column (List.mem_filter.mp hmem).1
    obtain ⟨statement, hcompile, hread⟩ := exists_merged hvalid halias hname hmatchOn hkept
      hothers hothers (hdistinct.sublist (List.filter_sublist.map Prod.fst))
    exact ⟨statement, _, _, _, hcompile, hread, hperm, hperm⟩

end Model

/-- Exchanges in their JSON form. What is given is held by a column of the name of what is taken,
    and the other way round. -/
def exchanges : Model Json where
  schema :=
    { name := "Exchange"
      properties :=
        [{ name := "code", kind := .string, isPrimaryKey := true },
          { name := "give", column := some "take", kind := .string },
          { name := "take", column := some "give", kind := .string }] }
  serialize := .ok
  deserialize := .ok

/-- An exchange of stamps for coins. -/
def stampsForCoins : Json :=
  .object [("code", .string "x1"), ("give", .string "stamps"), ("take", .string "coins")]

theorem exchanges_writers_agree :
    let columns : List (String × Value) :=
      [("code", .string "x1"), ("take", .string "stamps"), ("give", .string "coins")]
    (∃ clause statement, exchanges.create "e" stampsForCoins = .ok clause ∧
      compile (.plain {}) [clause] = .ok statement ∧
      statement.created? "e" "Exchange" = some columns) ∧
    (∃ assignments statement, exchanges.assign "e" stampsForCoins = .ok assignments ∧
      compile (.plain {}) [.set assignments] = .ok statement ∧
      statement.assigned? "e" = some columns) ∧
    ∃ clause statement matchOn onCreate onMatch,
      exchanges.merge "e" stampsForCoins ["take"] = .ok clause ∧
      compile (.plain {}) [clause] = .ok statement ∧
      statement.merged? "e" "Exchange" = some (matchOn, onCreate, onMatch) ∧
      (matchOn ++ onCreate).Perm columns ∧ (matchOn ++ onMatch).Perm columns := by
  intro columns
  obtain ⟨hcreate, hassign, hmerge⟩ := exchanges.writers_agree (.plain {}) "e" stampsForCoins
    columns rfl (by decide) (by decide) rfl (by decide) (by decide) (by decide)
  obtain ⟨clause, hclause⟩ := Except.exists_eq_ok
    (exchanges.merge "e" stampsForCoins ["take"]) (by decide +kernel)
  obtain ⟨statement, matchOn, onCreate, onMatch, hread⟩ := hmerge ["take"] clause hclause
  exact ⟨hcreate, hassign, clause, statement, matchOn, onCreate, onMatch, hclause, hread⟩

end GraphQuery
