import GraphQuery.Proofs.Conflict.Part
import GraphQuery.Proofs.Contract.Check

namespace GraphQuery

/-- A part of a statement is written only if a property holds, and where it is refused the error
    does not know its clause yet. -/
structure Ensures {α : Type} (part : RenderM α) (p : Prop) : Prop where
  of_ok : ∀ before a after, part before = .ok a after → p
  clause?_eq : ∀ before error after, part before = .error error after → error.clause? = none

namespace Ensures

variable {α β : Type} {config : Config} {p q : Prop}

theorem pure (a : α) (hp : p) : Ensures (pure a : RenderM α) p where
  of_ok := fun _ _ _ _ => hp
  clause?_eq := fun _ _ _ hpure => by cases hpure

theorem fail (component : String) (cause : Failure) (p : Prop) :
    Ensures (RenderM.fail component cause : RenderM α) p where
  of_ok := fun _ _ _ hfail => by cases hfail
  clause?_eq := fun _ _ _ hfail => by cases hfail; rfl

theorem lift {check : Except QueryError α} (hcheck : Guarded check p) :
    Ensures (liftM check : RenderM α) p where
  of_ok := fun _ a _ hlift => hcheck.of_ok a (RenderM.lift_eq_ok.mp hlift).1
  clause?_eq := fun _ error _ hlift => hcheck.clause?_eq error (RenderM.lift_eq_error hlift)

theorem imp {part : RenderM α} (hpart : Ensures part p) (himp : p → q) : Ensures part q where
  of_ok := fun before a after hok => himp (hpart.of_ok before a after hok)
  clause?_eq := hpart.clause?_eq

theorem bind {part : RenderM α} {next : α → RenderM β} (hpart : Ensures part p)
    (hnext : ∀ a, Ensures (next a) q) : Ensures (part >>= next) (p ∧ q) where
  of_ok := by
    intro before b after hbind
    obtain ⟨a, middle, hfirst, hsecond⟩ := RenderM.bind_eq_ok.mp hbind
    exact ⟨hpart.of_ok _ _ _ hfirst, (hnext a).of_ok _ _ _ hsecond⟩
  clause?_eq := by
    intro before error after hbind
    rcases RenderM.bind_eq_error.mp hbind with hfirst | ⟨a, middle, _, hsecond⟩
    · exact hpart.clause?_eq _ _ _ hfirst
    · exact (hnext a).clause?_eq _ _ _ hsecond

theorem followed {part : RenderM α} {next : α → RenderM β} (hpart : Ensures part p)
    (hnext : ∀ a, Ensures (next a) True) : Ensures (part >>= next) p :=
  (hpart.bind hnext).imp And.left

theorem skip {part : RenderM α} {next : α → RenderM β} (hpart : Ensures part p)
    (hnext : ∀ a, Ensures (next a) q) : Ensures (part >>= next) q :=
  (hpart.bind hnext).imp And.right

/-- The first item of a list, and then the others. -/
theorem cons {γ : Type} {holds : γ → Prop} {item : γ} {items : List γ} {part : RenderM α}
    {next : α → RenderM β} (hitem : Ensures part (holds item))
    (hitems : ∀ a, Ensures (next a) (∀ item ∈ items, holds item)) :
    Ensures (part >>= next) (∀ other ∈ item :: items, holds other) :=
  (hitem.bind hitems).imp List.forall_mem_cons.mpr

theorem map {part : RenderM α} (hpart : Ensures part p) (f : α → β) :
    Ensures (do let a ← part; return f a) p :=
  hpart.followed fun a => pure (f a) trivial

theorem unless_fail {c : Prop} [Decidable c] {component : String} {cause : Failure}
    {next : β → RenderM α} {part : RenderM α} (hpart : Ensures part p) :
    Ensures (if c then RenderM.fail component cause >>= next else part) (¬ c ∧ p) := by
  by_cases hc : c
  · rw [if_pos hc]
    exact fail component cause _
  · rw [if_neg hc]
    exact hpart.imp fun hp => ⟨hc, hp⟩

theorem mapM {part : α → RenderM β} (items : List α) (hpart : ∀ item, Ensures (part item) True) :
    Ensures (items.mapM part) True := by
  induction items with
  | nil => exact .pure [] trivial
  | cons item items ih =>
    rw [List.mapM_cons]
    exact (hpart item).skip fun _ => ih.map _

theorem forM {check : α → Except QueryError Unit} {p : α → Prop} (items : List α)
    (hcheck : ∀ item, Guarded (check item) (p item)) :
    Ensures (items.forM fun item => (liftM (check item) : RenderM Unit)) True := by
  induction items with
  | nil => exact .pure () trivial
  | cons item items ih => exact (lift (hcheck item)).skip fun _ => ih

theorem bind_value (name : String) (v : Value) : Ensures (Scope.bind name v) True where
  of_ok := fun _ _ _ _ => trivial
  clause?_eq := by
    intro before error after hbind
    obtain ⟨_, rfl, _⟩ := Scope.conflict_of_bind hbind
    rfl

theorem bindAnonymous (v : Value) : Ensures (Scope.bindAnonymous config v) True :=
  have hreserve : Ensures (Scope.reserve config) True :=
    ⟨fun _ _ _ _ => trivial, fun _ _ _ hreserve => by cases hreserve⟩
  hreserve.skip fun name => .map (bind_value name v) _

theorem bindSemantic (aliasName column : String) (v : Value) :
    Ensures (Scope.bindSemantic aliasName column v) True :=
  .map (bind_value _ v) _

theorem absorb (bindings : Bindings) : Ensures (Scope.absorb bindings) True where
  of_ok := fun _ _ _ _ => trivial
  clause?_eq := by
    intro before error after habsorb
    obtain ⟨_, _, _, rfl, _⟩ := Scope.conflict_of_absorb habsorb
    rfl

theorem isolated {part : RenderM String} (hpart : Ensures part p) :
    Ensures (Scope.isolated part) p where
  of_ok := by
    intro before fragment after hisolated
    obtain ⟨inner, hinner, _⟩ := Scope.isolated_eq_ok hisolated
    exact hpart.of_ok _ _ _ hinner
  clause?_eq := by
    intro before error after hisolated
    obtain ⟨inner, hinner⟩ := Scope.isolated_eq_error hisolated
    exact hpart.clause?_eq _ _ _ hinner

/-- A part with parameters of its own, which are then added to those around it. -/
theorem absorbed {part : RenderM String} {next : Fragment → RenderM β} (hpart : Ensures part p)
    (hnext : ∀ fragment, Ensures (next fragment) True) :
    Ensures (do
      let fragment ← Scope.isolated part
      Scope.absorb fragment.bindings
      next fragment) p :=
  hpart.isolated.followed fun fragment => (absorb fragment.bindings).skip fun _ => hnext fragment

end Ensures

variable {config : Config}

theorem Operand.ensures (reference : Reference) (comparison : Comparison) (operand : Operand) :
    Ensures (operand.render config reference comparison) (operand ≠ .value .null) := by
  cases operand with
  | value v =>
    cases v with
    | null => exact .fail ..
    | _ => exact (Ensures.bindAnonymous _).imp fun _ => by simp
  | reference other => exact .lift (other.guarded_render.imp fun _ => by simp)
  | parameter name =>
    exact .lift ((Name.guarded_callerPlaceholder ..).imp fun _ => by simp)

namespace Predicate

theorem ensures_isIn (reference : Reference) (values : Value) :
    Ensures (renderIsIn config reference values)
      ((Predicate.isIn reference values).WellFormed config.acceptsRegex) := by
  refine Ensures.imp (.unless_fail ((Ensures.lift reference.guarded_render).skip fun _ =>
    .map (.bindAnonymous _) _)) ?_
  rintro ⟨hlist, -⟩
  cases values with
  | list items => exact .isIn reference items
  | _ => exact absurd rfl hlist

theorem ensures_stringMatch (reference : Reference) (kind : StringMatch) (v : Value) :
    Ensures (renderStringMatch config reference kind v) (kind.Accepts config.acceptsRegex v) := by
  unfold renderStringMatch
  split
  · exact .fail ..
  · rename_i s hstring
    refine Ensures.imp (.unless_fail ((Ensures.lift reference.guarded_render).skip fun _ =>
      .map (.bindAnonymous _) _)) ?_
    rintro ⟨hregex, -⟩
    refine ⟨s, ?_, fun hkind => ?_⟩
    · cases v with
      | string => cases hstring; rfl
      | _ => cases hstring
    · simpa [hkind] using hregex

theorem ensures_custom (text : String) (bindings : Bindings) :
    Ensures (renderCustom config text bindings) True := by
  refine Ensures.imp (.unless_fail ((Ensures.lift (guarded_checkSupplied ..)).skip fun _ => ?_))
    And.right
  split
  · exact .fail ..
  · exact .map (.absorb bindings) _

end Predicate

theorem ensures_inline (aliasName column : String) (v : Value) :
    Ensures (bindInline config aliasName column v) True := by
  unfold bindInline
  split
  · exact .bindAnonymous v
  · exact .bindSemantic aliasName column v

theorem Ensures.inlineProperty {p : Prop} {value : RenderM String} (hvalue : Ensures value p)
    (column : String) : Ensures (renderInline column value) p :=
  hvalue.followed fun _ => .map (.lift (Name.guarded_write ..)) _

theorem ensures_pairs (head : Head) (pairs : List (String × Value)) :
    Ensures (renderPairs config head pairs) True :=
  .mapM pairs fun (_, v) => (ensures_inline _ _ v).inlineProperty _

theorem Update.ensures (target : String) (reference : Reference) (update : Update) :
    Ensures (update.render config target reference) True := by
  cases update with
  | value v => exact .bindAnonymous v
  | copy source => exact .lift source.guarded_render
  | increment | decrement | append =>
    exact Ensures.imp (.unless_fail (.map (.bindAnonymous _) _)) And.right

theorem Assignment.ensures (assignment : Assignment) :
    Ensures (assignment.render config) True :=
  (Ensures.lift assignment.target.guarded_render).skip fun _ =>
    .map (assignment.update.ensures ..) _

theorem UnwindSource.ensures (source : UnwindSource) : Ensures (source.render config) True := by
  cases source with
  | value v => exact Ensures.imp (.unless_fail (.bindAnonymous v)) And.right
  | parameter name => exact .lift (Name.guarded_callerPlaceholder ..)

namespace Pattern

theorem ensures_assignment (pattern : Pattern) (name : String) (v : Value) :
    Ensures (pattern.renderAssignment config name v) True :=
  (Ensures.bindAnonymous v).skip fun _ => .map (.lift (Name.guarded_write ..)) _

theorem ensures_branch (pattern : Pattern) (keyword : String) (pairs : List (String × Value)) :
    Ensures (pattern.renderBranch config keyword pairs) True := by
  unfold renderBranch
  split
  · exact .pure "" trivial
  · exact Ensures.imp (.unless_fail (.map (.mapM pairs fun (name, v) =>
      pattern.ensures_assignment ..) _)) And.right

end Pattern

/-- A query within a query has clauses, and gives out columns of its own only if it is a block that
    is called. -/
theorem SubqueryKind.ensures_nested {p : Prop} {inner : RenderM String} (kind : SubqueryKind)
    (clauses : List Clause) (yields : List String) (hinner : Ensures inner p) :
    Ensures (kind.renderNested clauses.isEmpty yields inner)
      (clauses ≠ [] ∧ (yields ≠ [] → kind = .call) ∧ p) := by
  have hyields : ∀ fragment : Fragment, Ensures (do
      yields.forM fun (column : String) => (Name.checkAlias "subquery" column : RenderM Unit)
      return kind.enclose fragment.text ++ yieldText yields) True := fun fragment =>
    .map (.forM yields fun _ => Name.guarded_checkAlias ..) _
  refine Ensures.imp (.unless_fail (.unless_fail (hinner.absorbed hyields))) ?_
  rintro ⟨hne, hcall, hp⟩
  refine ⟨by simpa using hne, fun hyields => ?_, hp⟩
  simpa [hyields] using hcall

theorem VectorSearch.ensures_call (search : VectorSearch) :
    Ensures (search.renderCall config) search.WellFormed := by
  refine Ensures.imp ((Ensures.lift search.guarded_validate).bind fun _ =>
    (Ensures.lift (Name.guarded_checkAlias ..)).skip fun _ =>
      (Ensures.lift (Name.guarded_checkProcedure ..)).skip fun _ =>
        Ensures.bind (q := search.count ≤ 0x7fffffffffffffff) (.lift (guarded_vectorText ..))
          fun _ => ?_) ?_
  · split
    · exact .fail ..
    · rename_i hcount
      refine (Ensures.map (.bindAnonymous _) _).imp fun _ => ?_
      unfold SizedInt.ofInt? at hcount
      split at hcount
      · rename_i hholds
        exact Int.ofNat_le.mp hholds.2
      · cases hcount
  · rintro ⟨⟨hdimension, hleast⟩, hfinite, hgreatest⟩
    exact ⟨hdimension, hfinite, hleast, hgreatest⟩

end GraphQuery
