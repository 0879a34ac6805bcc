import GraphQuery.Proofs.Place
import GraphQuery.Proofs.Replay.Part

namespace GraphQuery

variable {config : Config} {stem : String} {α β : Type}

theorem Operand.replays (reference : Reference) (comparison : Comparison) (operand : Operand) :
    Replays stem (operand.render config reference comparison)
      (operand.render (config.withStem stem) reference comparison) operand.places := by
  cases operand with
  | value v =>
    cases v with
    | null => exact .fail ..
    | _ => exact .bindAnonymous _
  | reference other => exact .lift _
  | parameter name => exact .caller ..

namespace Predicate

theorem replays_isIn (reference : Reference) (values : Value) :
    Replays stem (renderIsIn config reference values)
      (renderIsIn (config.withStem stem) reference values) [.value values] :=
  .unless_fail fun _ => .check fun _ _ => .map (.bindAnonymous _) _ _

theorem replays_stringMatch (reference : Reference) (kind : StringMatch) (value : Value) :
    Replays stem (renderStringMatch config reference kind value)
      (renderStringMatch (config.withStem stem) reference kind value) [.value value] := by
  unfold renderStringMatch
  split
  · exact .fail ..
  · exact .unless_fail fun _ => .check fun _ _ => .map (.bindAnonymous _) _ _

/-- The names of the values that come with a condition in the caller's own words pass the check of
    any stem that none of them has. -/
theorem checkSupplied_withStem {bindings : Bindings} {u : Unit}
    (hsupplied : checkSupplied config bindings = .ok u)
    (hadmits : ∀ name ∈ bindings.table.names, Name.isAnonymous stem name = false) :
    checkSupplied (config.withStem stem) bindings = .ok u := by
  apply Except.forM_eq_ok_iff.mpr
  intro name hname
  have hchecked := Except.forM_eq_ok_iff.mp hsupplied name hname
  obtain ⟨text, hcaller⟩ :
      ∃ text, Name.callerPlaceholder config "predicate" name = .ok text := by
    cases hcaller : Name.callerPlaceholder config "predicate" name with
    | ok text => exact ⟨text, rfl⟩
    | error error =>
      rw [hcaller] at hchecked
      cases hchecked
  have hcaller := Name.callerPlaceholder_withStem hcaller (hadmits name hname)
  rw [hcaller]
  rfl

theorem replays_custom (text : String) (bindings : Bindings) :
    Replays stem (renderCustom config text bindings)
      (renderCustom (config.withStem stem) text bindings) [.verbatim text bindings] := by
  refine .unless_fail fun _ => .checks (fun _ hsupplied hadmits => ?_) fun _ _ => ?_
  · apply checkSupplied_withStem hsupplied
    intro name hname
    apply hadmits.supplied
    exact List.mem_append_left _ hname
  · split
    · exact .fail ..
    · exact .map (.absorb text bindings) _ _

end Predicate

theorem replays_inline (aliasName column : String) (v : Value) :
    Replays stem (bindInline config aliasName column v)
      (bindInline (config.withStem stem) aliasName column v)
      (Template.inlineValue aliasName column v) := by
  unfold bindInline Template.inlineValue
  split
  · exact .bindAnonymous v
  · exact .bindSemantic aliasName column v

namespace Replays

theorem inlineProperty {places : Template} {value value' : RenderM String}
    (hvalue : Replays stem value value' places) (column : String) :
    Replays stem (renderInline column value) (renderInline column value') places :=
  hvalue.followed fun _ _ => .map (.lift _) _ _

theorem mapM {part part' : α → RenderM β} {places : α → Template} (items : List α)
    (hpart : ∀ item, Replays stem (part item) (part' item) (places item)) :
    Replays stem (items.mapM part) (items.mapM part') (items.flatMap places) := by
  induction items with
  | nil => exact .pure [] []
  | cons item items ih =>
    rw [List.mapM_cons, List.mapM_cons, List.flatMap_cons]
    exact (hpart item).bind fun _ _ => ih.map _ _

theorem forM {check : α → Except QueryError Unit} (items : List α) :
    Replays stem (items.forM fun item => (liftM (check item) : RenderM Unit))
      (items.forM fun item => (liftM (check item) : RenderM Unit)) [] := by
  induction items with
  | nil => exact .pure () ()
  | cons item items ih => exact .check fun _ _ => ih

end Replays

theorem replays_pairs (head : Head) (pairs : List (String × Value)) :
    Replays stem (renderPairs config head pairs) (renderPairs (config.withStem stem) head pairs)
      (pairPlaces head pairs) :=
  .mapM pairs fun (name, v) =>
    (replays_inline head.aliasName (head.columnFor name) v).inlineProperty _

theorem Update.replays (target : String) (reference : Reference) (update : Update) :
    Replays stem (update.render config target reference)
      (update.render (config.withStem stem) target reference) update.places := by
  cases update with
  | value v => exact .bindAnonymous v
  | copy source => exact .lift _
  | increment | decrement | append => exact .unless_fail fun _ => .map (.bindAnonymous _) _ _

theorem Assignment.replays (assignment : Assignment) :
    Replays stem (assignment.render config) (assignment.render (config.withStem stem))
      assignment.update.places :=
  .check fun _ _ => .map (assignment.update.replays ..) _ _

theorem UnwindSource.replays (source : UnwindSource) :
    Replays stem (source.render config) (source.render (config.withStem stem)) source.places := by
  cases source with
  | value v => exact .unless_fail fun _ => .bindAnonymous v
  | parameter name => exact .caller ..

namespace Pattern

theorem replays_assignment (pattern : Pattern) (name : String) (v : Value) :
    Replays stem (pattern.renderAssignment config name v)
      (pattern.renderAssignment (config.withStem stem) name v) [.value v] :=
  (Replays.bindAnonymous v).followed fun _ _ => .map (.lift _) _ _

theorem replays_branch (pattern : Pattern) (keyword : String) (pairs : List (String × Value)) :
    Replays stem (pattern.renderBranch config keyword pairs)
      (pattern.renderBranch (config.withStem stem) keyword pairs) (branchPlaces pairs) := by
  unfold renderBranch
  split
  · rename_i hempty
    rw [List.isEmpty_iff.mp hempty]
    exact .pure "" ""
  · have hpairs : branchPlaces pairs = pairs.flatMap fun pair => [.value pair.2] :=
      List.map_eq_flatMap
    rw [hpairs]
    exact .unless_fail fun _ =>
      .map (.mapM pairs fun pair => pattern.replays_assignment pair.1 pair.2) _ _

end Pattern

/-- A query within a query adds what its clauses add. -/
theorem SubqueryKind.replays_nested {inner inner' : RenderM String} {places : Template}
    (kind : SubqueryKind) (isEmpty : Bool) (yields : List String)
    (hinner : Replays stem inner inner' places) :
    Replays stem (kind.renderNested isEmpty yields inner) (kind.renderNested isEmpty yields inner')
      places := by
  refine .unless_fail fun _ => .unless_fail fun _ => ?_
  rw [← List.append_nil places]
  exact hinner.isolated fun _ _ => .map (.forM yields) _ _

theorem VectorSearch.replays_call (search : VectorSearch) :
    Replays stem (search.renderCall config) (search.renderCall (config.withStem stem))
      [.value search.countValue] := by
  refine .check fun _ _ => .check fun _ _ => .check fun _ _ => .check fun _ _ => ?_
  unfold countValue
  generalize SizedInt.ofInt? .int64 search.count = count?
  cases count? with
  | none => exact .fail ..
  | some count => exact .map (.bindAnonymous _) _ _

end GraphQuery
