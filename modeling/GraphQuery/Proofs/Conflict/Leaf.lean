import GraphQuery.Proofs.Conflict.Part
import GraphQuery.Proofs.Place

namespace GraphQuery

theorem Except.forM_eq_ok_iff {ε α : Type} {check : α → Except ε Unit} {items : List α} :
    items.forM check = .ok () ↔ ∀ item ∈ items, check item = .ok () := by
  induction items with
  | nil => exact ⟨fun _ => List.forall_mem_nil _, fun _ => rfl⟩
  | cons item items ih =>
    rw [List.forM_eq_forM, List.forM_cons, Except.bind_eq_ok, List.forall_mem_cons, ← ih]
    constructor
    · rintro ⟨_, hitem, hitems⟩
      exact ⟨hitem, hitems⟩
    · rintro ⟨hitem, hitems⟩
      exact ⟨(), hitem, hitems⟩

/-- The values of a piece that have a name of their own, each with that name: a value that shares
    the name of its alias and column, or those that come with the caller's own words. -/
def Piece.named : Piece → Fields Value
  | shared aliasName column v => [(Name.semantic aliasName column, v)]
  | verbatim _ bindings => bindings.table
  | _ => []

/-- The values of a template that have a name of their own, each with that name, in the order of the
    text. -/
def Template.named (template : Template) : Fields Value :=
  template.flatMap Piece.named

@[simp]
theorem Template.named_append (first second : Template) :
    Template.named (first ++ second) = first.named ++ second.named :=
  List.flatMap_append

variable {config : Config} {α β : Type}

theorem Operand.binds (reference : Reference) (comparison : Comparison) (operand : Operand) :
    Binds config (operand.render config reference comparison) operand.places.named := by
  cases operand with
  | value v =>
    cases v with
    | null => exact .fail ..
    | _ => exact .bindAnonymous _
  | reference other => exact .lift other.guarded_render
  | parameter name => exact .lift (Name.guarded_callerPlaceholder ..)

namespace Predicate

theorem binds_isIn (reference : Reference) (values : Value) :
    Binds config (renderIsIn config reference values) [] :=
  .unless_fail fun _ => .check reference.guarded_render fun _ _ => .map (.bindAnonymous _) _

theorem binds_stringMatch (reference : Reference) (kind : StringMatch) (value : Value) :
    Binds config (renderStringMatch config reference kind value) [] := by
  unfold renderStringMatch
  split
  · exact .fail ..
  · exact .unless_fail fun _ =>
      .check reference.guarded_render fun _ _ => .map (.bindAnonymous _) _

/-- The names of the values that come with a condition in the caller's own words are those of
    parameters that the caller binds. -/
theorem isAnonymous_of_checkSupplied {bindings : Bindings}
    (hsupplied : checkSupplied config bindings = .ok ()) :
    ∀ name ∈ bindings.table.names, Name.isAnonymous config.parameterStem name = false := by
  intro name hmem
  have hname := Except.forM_eq_ok_iff.mp hsupplied name hmem
  cases hcaller : Name.callerPlaceholder config "predicate" name with
  | ok text => exact (Name.of_callerPlaceholder hcaller).2.1
  | error error =>
    rw [hcaller] at hname
    cases hname

theorem binds_custom (text : String) (bindings : Bindings) :
    Binds config (renderCustom config text bindings) bindings.table := by
  refine .unless_fail fun _ => .check (guarded_checkSupplied ..) fun _ hsupplied => ?_
  have hnamed := isAnonymous_of_checkSupplied hsupplied
  split
  · exact .fail ..
  · exact .map (.absorb hnamed) _

end Predicate

theorem binds_inline (hstem : Name.IsStem config.parameterStem) (aliasName column : String)
    (v : Value) :
    Binds config (bindInline config aliasName column v)
      (Template.inlineValue aliasName column v).named := by
  unfold bindInline Template.inlineValue
  split
  · exact .bindAnonymous v
  · exact .bindSemantic hstem aliasName column v

theorem Binds.inlineProperty {named : Fields Value} {value : RenderM String}
    (hvalue : Binds config value named) (column : String) :
    Binds config (renderInline column value) named :=
  hvalue.followed fun _ => .map (.lift (Name.guarded_write ..)) _

theorem Binds.mapM {part : α → RenderM β} {named : α → Fields Value} (items : List α)
    (hpart : ∀ item, Binds config (part item) (named item)) :
    Binds config (items.mapM part) (items.flatMap named) := by
  induction items with
  | nil => exact .pure []
  | cons item items ih =>
    rw [List.mapM_cons, List.flatMap_cons]
    exact (hpart item).bind fun _ => ih.map _

theorem Binds.mapM_nil {part : α → RenderM β} (items : List α)
    (hpart : ∀ item, Binds config (part item) []) : Binds config (items.mapM part) [] := by
  have hitems := Binds.mapM items hpart
  rwa [List.flatMap_eq_nil_iff.mpr fun _ _ => rfl] at hitems

theorem Binds.forM {check : α → Except QueryError Unit} {p : α → Prop} (items : List α)
    (hcheck : ∀ item, Guarded (check item) (p item)) :
    Binds config (items.forM fun item => (liftM (check item) : RenderM Unit)) [] := by
  induction items with
  | nil => exact .pure ()
  | cons item items ih => exact .check (hcheck item) fun _ _ => ih

theorem binds_pairs (hstem : Name.IsStem config.parameterStem) (head : Head)
    (pairs : List (String × Value)) :
    Binds config (renderPairs config head pairs) (pairPlaces head pairs).named := by
  rw [pairPlaces, Template.named, List.flatMap_assoc]
  exact .mapM pairs fun (name, v) => (binds_inline hstem _ _ v).inlineProperty _

theorem Update.binds (target : String) (reference : Reference) (update : Update) :
    Binds config (update.render config target reference) [] := by
  cases update with
  | value v => exact .bindAnonymous v
  | copy source => exact .lift source.guarded_render
  | increment | decrement | append => exact .unless_fail fun _ => .map (.bindAnonymous _) _

theorem Assignment.binds (assignment : Assignment) :
    Binds config (assignment.render config) [] :=
  .check assignment.target.guarded_render fun _ _ => .map (assignment.update.binds ..) _

theorem UnwindSource.binds (source : UnwindSource) :
    Binds config (source.render config) [] := by
  cases source with
  | value v => exact .unless_fail fun _ => .bindAnonymous v
  | parameter name => exact .lift (Name.guarded_callerPlaceholder ..)

namespace Pattern

theorem binds_assignment (pattern : Pattern) (name : String) (v : Value) :
    Binds config (pattern.renderAssignment config name v) [] :=
  (Binds.bindAnonymous v).followed fun _ => .map (.lift (Name.guarded_write ..)) _

theorem binds_branch (pattern : Pattern) (keyword : String) (pairs : List (String × Value)) :
    Binds config (pattern.renderBranch config keyword pairs) [] := by
  unfold renderBranch
  split
  · exact .pure ""
  · exact .unless_fail fun _ =>
      .map (.mapM_nil pairs fun (name, v) => pattern.binds_assignment ..) _

end Pattern

/-- A query within a query binds what its clauses bind. -/
theorem SubqueryKind.binds_nested {inner : RenderM String} {named : Fields Value}
    (kind : SubqueryKind) (isEmpty : Bool) (yields : List String)
    (hinner : Binds config inner named) :
    Binds config (kind.renderNested isEmpty yields inner) named := by
  refine .unless_fail fun _ => .unless_fail fun _ => ?_
  have hyields : ∀ fragment : Fragment, Binds config (do
      yields.forM fun (column : String) => (Name.checkAlias "subquery" column : RenderM Unit)
      return kind.enclose fragment.text ++ yieldText yields) [] := fun fragment =>
    .map (.forM yields fun _ => Name.guarded_checkAlias ..) _
  exact List.append_nil named ▸ hinner.isolated hyields

theorem VectorSearch.binds_call (search : VectorSearch) :
    Binds config (search.renderCall config) [] := by
  refine .check search.guarded_validate fun _ _ =>
    .check (Name.guarded_checkAlias ..) fun _ _ =>
      .check (Name.guarded_checkProcedure ..) fun _ _ =>
        .check (guarded_vectorText ..) fun _ _ => ?_
  split
  · exact .fail ..
  · exact .map (.bindAnonymous _) _

end GraphQuery
