import GraphQuery.Proofs.Template.Leaf
import GraphQuery.Query.VectorSearch

namespace GraphQuery

open Template Statement

variable {config : Config} {before middle after : Scope}

namespace Written

/-- An inline value takes an anonymous name where there is no alias, and otherwise needs an alias
    that can be part of a name. -/
theorem inlineValue {aliasName column text : String} {v : Value}
    (halias : aliasName.isEmpty = false → Name.isIdentifier aliasName = true)
    (hbind : bindInline config aliasName column v before = .ok text after) :
    Written config (inlineValue aliasName column v) before text after := by
  unfold bindInline at hbind
  unfold Template.inlineValue
  cases hempty : aliasName.isEmpty with
  | true =>
    simp only [hempty, if_true] at hbind ⊢
    exact Written.value hbind
  | false =>
    simp only [hempty, Bool.false_eq_true, if_false] at hbind ⊢
    exact Written.shared (halias hempty) hbind

/-- An inline property is written behind its column, although its value is bound first. -/
theorem inlineProperty {column text : String} {part : RenderM String} {template : Template}
    (hpart : Writes config part template)
    (hrender : renderInline column part before = .ok text after) :
    Written config (inlineProperty column template) before text after := by
  simp only [renderInline, RenderM.bind_eq_ok, RenderM.lift_eq_ok, RenderM.pure_eq_ok] at hrender
  obtain ⟨value, bound, hvalue, name, _, ⟨hname, rfl⟩, rfl, rfl⟩ := hrender
  rw [Name.eq_written_of_write hname]
  exact (hpart _ _ _ hvalue).text_cons
    ((silent_written column).append (silent_of_bare _ rfl))

theorem yieldText {template : Template} {text : String} {yields : List String}
    (hfirst : Written config template before text after)
    (hyields : ∀ name ∈ yields, Name.isIdentifier name = true) :
    Written config (template ++ [.text (yieldText yields)]) before
      (text ++ yieldText yields) after := by
  cases yields with
  | nil => exact hfirst.append_empty
  | cons first rest =>
    refine hfirst.append_text (silent_yieldText hyields) ?_
    rw [GraphQuery.yieldText, List.isEmpty_cons, if_neg Bool.false_ne_true]
    exact breaksOff_append _ rfl

end Written

/-- Parts that are written one after the other for a list of items. -/
theorem writesAll_mapM {α : Type} {items : List α} {part : α → RenderM String}
    {template : α → Template} (hpart : ∀ item ∈ items, Writes config (part item) (template item)) :
    WritesAll config (items.mapM part) (items.map template) := by
  induction items with
  | nil =>
    rw [List.mapM_nil]
    exact WritesAll.nil
  | cons item items ih =>
    intro before texts after hrender
    simp only [List.mapM_cons, RenderM.bind_eq_ok, RenderM.pure_eq_ok] at hrender
    obtain ⟨text, _, hfirst, rest, _, hrest, rfl, rfl⟩ := hrender
    have hitems := ih fun other hmem => hpart other (List.mem_cons_of_mem item hmem)
    exact .cons (hpart item List.mem_cons_self _ _ _ hfirst) (hitems _ _ _ hrest)

theorem writesAll_pairs {head : Head}
    (halias : head.aliasName.isEmpty = false → Name.isIdentifier head.aliasName = true)
    (pairs : List (String × Value)) :
    WritesAll config (renderPairs config head pairs) (pairTemplates head pairs) := by
  refine writesAll_mapM fun pair _ before text after hrender => ?_
  exact Written.inlineProperty (fun _ _ _ hvalue => Written.inlineValue halias hvalue) hrender

theorem Update.written {target text : String} {template : Template} {reference : Reference}
    {update : Update} (htarget : Written config template before target before)
    (hrender : update.render config target reference before = .ok text after) :
    Written config (update.template template) before text after := by
  cases update with
  | value v => exact Written.value hrender
  | copy source =>
    obtain ⟨hsource, rfl⟩ := RenderM.lift_eq_ok.mp hrender
    exact Written.reference hsource
  | increment delta =>
    simp only [Update.render, RenderM.unless_fail_eq_ok, RenderM.bind_eq_ok, RenderM.pure_eq_ok]
      at hrender
    obtain ⟨_, right, _, hbind, rfl, rfl⟩ := hrender
    exact htarget.append_value hbind (silent_of_bare " + " rfl) rfl
  | decrement delta =>
    simp only [Update.render, RenderM.unless_fail_eq_ok, RenderM.bind_eq_ok, RenderM.pure_eq_ok]
      at hrender
    obtain ⟨_, right, _, hbind, rfl, rfl⟩ := hrender
    exact htarget.append_value hbind (silent_of_bare " - " rfl) rfl
  | append suffix =>
    simp only [Update.render, RenderM.unless_fail_eq_ok, RenderM.bind_eq_ok, RenderM.pure_eq_ok]
      at hrender
    obtain ⟨_, right, _, hbind, rfl, rfl⟩ := hrender
    exact htarget.append_value hbind (silent_of_bare " + " rfl) rfl

theorem Assignment.writes (assignment : Assignment) :
    Writes config (assignment.render config) assignment.template := by
  intro before text after hrender
  simp only [Assignment.render, RenderM.bind_eq_ok, RenderM.lift_eq_ok, RenderM.pure_eq_ok]
    at hrender
  obtain ⟨target, _, ⟨htarget, rfl⟩, value, _, hupdate, rfl, rfl⟩ := hrender
  have hreference : Written config (Template.checked assignment.target.render) before target
      before := Written.reference htarget
  have hvalue := (Update.written hreference hupdate).text_cons (silent_of_bare " = " rfl)
  rw [String.append_assoc]
  exact hreference.append hvalue (detached_text _ rfl)

theorem UnwindSource.writes (source : UnwindSource) :
    Writes config (source.render config) source.template := by
  intro before text after hrender
  cases source with
  | value v =>
    simp only [UnwindSource.render, RenderM.unless_fail_eq_ok] at hrender
    exact Written.value hrender.2
  | parameter name =>
    obtain ⟨hname, rfl⟩ := RenderM.lift_eq_ok.mp hrender
    exact Written.caller hname

namespace Pattern

theorem writes_assignment {pattern : Pattern}
    (halias : Name.isIdentifier pattern.aliasName = true) (name : String) (v : Value) :
    Writes config (pattern.renderAssignment config name v)
      [.text (pattern.aliasName ++ "." ++ Name.written (pattern.columnFor name) ++ " = "),
        .value v] := by
  intro before text after hrender
  simp only [renderAssignment, RenderM.bind_eq_ok, RenderM.lift_eq_ok, RenderM.pure_eq_ok]
    at hrender
  obtain ⟨value, _, hbind, column, _, ⟨hcolumn, rfl⟩, rfl, rfl⟩ := hrender
  rw [Name.eq_written_of_write hcolumn]
  have htarget := ((silent_of_isIdentifier halias).append (silent_of_bare "." rfl)).append
    (silent_written (pattern.columnFor name))
  exact (Written.value hbind).text_cons (htarget.append (silent_of_bare _ rfl))

theorem writes_branch {keyword : String} (hkeyword : Silent keyword) (pattern : Pattern)
    (pairs : List (String × Value)) :
    Writes config (pattern.renderBranch config keyword pairs)
      (pattern.branchTemplate keyword pairs) := by
  intro before text after hrender
  unfold renderBranch at hrender
  unfold branchTemplate
  cases hempty : pairs.isEmpty with
  | true =>
    rw [hempty, if_pos rfl] at hrender
    obtain ⟨rfl, rfl⟩ := RenderM.pure_eq_ok.mp hrender
    exact Written.nil
  | false =>
    simp only [hempty, Bool.false_eq_true, if_false, RenderM.unless_fail_eq_ok,
      RenderM.bind_eq_ok, RenderM.pure_eq_ok] at hrender ⊢
    obtain ⟨halias, assignments, _, hassignments, rfl, rfl⟩ := hrender
    have halias : Name.isIdentifier pattern.aliasName = true := by simpa using halias
    have hwritten := writesAll_mapM (fun pair _ => writes_assignment halias pair.1 pair.2)
      _ _ _ hassignments
    exact hwritten.commaJoin.text_cons
      (((silent_of_bare _ rfl).append hkeyword).append (silent_of_bare _ rfl))

theorem detached_branchTemplate (pattern : Pattern) (keyword : String)
    (pairs : List (String × Value)) : Detached (pattern.branchTemplate keyword pairs) := by
  unfold branchTemplate
  split
  · exact detached_nil
  · exact detached_text _ (breaksOff_append _ (breaksOff_append _ rfl))

end Pattern

namespace SubqueryKind

theorem writes_enclose (kind : SubqueryKind) {yields : List String} {template : Template}
    {text : String} (hinner : Written config template before text after)
    (hyields : ∀ name ∈ yields, Name.isIdentifier name = true) :
    Written config (kind.template yields template) before (kind.enclose text ++ yieldText yields)
      after := by
  refine Written.yieldText ?_ hyields
  cases kind
  all_goals
    exact hinner.enclosed (silent_of_bare _ rfl) (silent_of_bare _ rfl) rfl

/-- A query within a query takes its anonymous names from those of the query around it, although
    its parameters are collected apart. -/
theorem writes_nested {kind : SubqueryKind} {isEmpty : Bool} {yields : List String}
    {inner : RenderM String} {template : Template} (hinner : Writes config inner template) :
    Writes config (kind.renderNested isEmpty yields inner) (kind.template yields template) := by
  intro before text after hrender
  simp only [renderNested, RenderM.unless_fail_eq_ok, RenderM.bind_eq_ok, RenderM.pure_eq_ok]
    at hrender
  obtain ⟨_, _, fragment, _, hisolated, _, _, habsorb, _, _, hcheck, rfl, rfl⟩ := hrender
  obtain ⟨rfl, hyields⟩ := Name.isIdentifier_of_forM hcheck
  exact kind.writes_enclose (Written.isolated hinner hisolated habsorb) hyields

end SubqueryKind

theorem Direction.written (direction : Direction) {template : Template} {text : String}
    (hinner : Written config template before text after) :
    Written config (direction.template template) before (direction.arrow text) after := by
  cases direction
  all_goals
    exact hinner.enclosed (silent_of_bare _ rfl) (silent_of_bare _ rfl) rfl

theorem Direction.detached_template (direction : Direction) (template : Template) :
    Detached (direction.template template) := by
  cases direction
  all_goals exact detached_text _ rfl

end GraphQuery
