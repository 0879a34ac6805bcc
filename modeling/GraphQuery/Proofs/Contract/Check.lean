import GraphQuery.Proofs.Scope
import GraphQuery.Proofs.WellFormed
import GraphQuery.Query.Compile

namespace GraphQuery

/-- Whether an error is a conflict between two values of a parameter. -/
def QueryError.isConflict : QueryError → Bool
  | .conflict .. => true
  | _ => false

@[simp]
theorem QueryError.isConflict_atClause (position : Nat) (error : QueryError) :
    (error.atClause position).isConflict = error.isConflict := by
  cases error with
  | conflict clause | failure clause => cases clause <;> rfl
  | _ => rfl

/-- A check passes only if a property holds. Where it fails, it is not with a conflict, and it is
    left open which clause the error belongs to. -/
structure Guarded {α : Type} (check : Except QueryError α) (p : Prop) : Prop where
  of_ok : ∀ a, check = .ok a → p
  clause?_eq : ∀ error, check = .error error → error.clause? = none
  isConflict_eq : ∀ error, check = .error error → error.isConflict = false

namespace Guarded

variable {α β : Type} {p q : Prop}

theorem ok (a : α) (hp : p) : Guarded (.ok a) p where
  of_ok := fun _ _ => hp
  clause?_eq := fun _ herror => by cases herror
  isConflict_eq := fun _ herror => by cases herror

theorem error {error : QueryError} (hclause : error.clause? = none)
    (hconflict : error.isConflict = false) (p : Prop) :
    Guarded (.error error : Except QueryError α) p where
  of_ok := fun _ hok => by cases hok
  clause?_eq := fun _ hother => by cases hother; exact hclause
  isConflict_eq := fun _ hother => by cases hother; exact hconflict

theorem failWith (component : String) (cause : Failure) (p : Prop) :
    Guarded (failWith component cause : Except QueryError α) p :=
  error rfl rfl p

theorem imp {check : Except QueryError α} (hcheck : Guarded check p) (himp : p → q) :
    Guarded check q :=
  { hcheck with of_ok := fun a hok => himp (hcheck.of_ok a hok) }

/-- What follows a check may rely on its outcome. -/
theorem bind {check : Except QueryError α} {next : α → Except QueryError β}
    (hcheck : Guarded check p) (hnext : ∀ a, check = .ok a → Guarded (next a) q) :
    Guarded (check >>= next) (p ∧ q) := by
  cases check with
  | ok a => exact (hnext a rfl).imp fun hq => ⟨hcheck.of_ok a rfl, hq⟩
  | error => exact error (hcheck.clause?_eq _ rfl) (hcheck.isConflict_eq _ rfl) _

theorem followed {check : Except QueryError α} {next : α → Except QueryError β}
    (hcheck : Guarded check p) (hnext : ∀ a, Guarded (next a) True) :
    Guarded (check >>= next) p :=
  (hcheck.bind fun a _ => hnext a).imp And.left

theorem skip {check : Except QueryError α} {next : α → Except QueryError β}
    (hcheck : Guarded check p) (hnext : ∀ a, Guarded (next a) q) : Guarded (check >>= next) q :=
  (hcheck.bind fun a _ => hnext a).imp And.right

theorem map {check : Except QueryError α} (hcheck : Guarded check p) (f : α → β) :
    Guarded (do let a ← check; return f a) p :=
  hcheck.followed fun a => ok (f a) trivial

theorem forM {check : β → Except QueryError Unit} (items : List β)
    (hcheck : ∀ item, Guarded (check item) True) : Guarded (items.forM check) True := by
  induction items with
  | nil => exact ok () trivial
  | cons item items ih => exact (hcheck item).skip fun _ => ih

end Guarded

namespace Name

theorem guarded_checkAlias (component name : String) :
    Guarded (checkAlias component name) (isIdentifier name = true) := by
  unfold checkAlias
  split
  · exact .failWith ..
  · split
    · exact .ok () ‹_›
    · exact .failWith ..

theorem guarded_write (component name : String) : Guarded (write component name) True := by
  unfold write
  split
  · exact .failWith ..
  · exact .ok _ trivial

theorem guarded_checkProcedure (component name : String) :
    Guarded (checkProcedure component name) True := by
  unfold checkProcedure
  split
  · exact .ok () trivial
  · exact .failWith ..

theorem guarded_callerPlaceholder (config : Config) (component name : String) :
    Guarded (callerPlaceholder config component name) True := by
  unfold callerPlaceholder
  split
  · exact .failWith ..
  · split
    · exact .failWith ..
    · exact .ok _ trivial

end Name

theorem Reference.guarded_render (reference : Reference) : Guarded reference.render True := by
  refine (Name.guarded_checkAlias ..).skip fun _ => ?_
  split
  · exact .failWith ..
  · exact .ok _ trivial

namespace Head

theorem guarded_labelText (label : Option String) : Guarded (labelText label) True := by
  cases label with
  | none => exact .ok _ trivial
  | some label => exact .map (Name.guarded_write ..) _

/-- An alias that is left out is not checked. -/
theorem guarded_render (head : Head) : Guarded head.render (Name.IsAlias head.aliasName) := by
  have hlabel : Guarded (do return head.aliasName ++ (← labelText head.label)) True :=
    .map (guarded_labelText head.label) _
  unfold render
  split
  · exact ((Name.guarded_checkAlias ..).followed fun _ => hlabel).imp .inr
  · rename_i hempty
    exact hlabel.imp fun _ => .inl (by simpa using hempty)

end Head

theorem Hops.guarded_render (hops : Hops) : Guarded hops.render hops.InOrder := by
  obtain ⟨_ | low, _ | high⟩ := hops
  · exact .ok _ fun _ _ hlow => by cases hlow
  · exact .ok _ fun _ _ hlow => by cases hlow
  · exact .ok _ fun _ _ _ hhigh => by cases hhigh
  · change Guarded (if high < low then _ else _) _
    split
    · exact .failWith ..
    · refine .ok _ fun least greatest hlow hhigh => ?_
      cases hlow
      cases hhigh
      exact Nat.le_of_not_lt ‹_›

namespace Pattern

theorem guarded_checkCreate (pattern : Pattern) :
    Guarded pattern.checkCreate (pattern.IsPlain ∧ pattern.HasEnds) := by
  cases pattern with
  | path => exact .failWith ..
  | node node =>
    rw [checkCreate]
    split
    · rename_i hfilters
      exact .ok () ⟨⟨fun _ _ _ _ _ _ => by simp, by simpa using hfilters⟩, trivial⟩
    · exact .failWith ..
  | edge source head direction properties filter target =>
    rw [checkCreate]
    split
    · exact .failWith ..
    · rename_i hfilters
      split
      · rename_i hends
        exact .ok () ⟨⟨fun _ _ _ _ _ _ => by simp, by simpa using hfilters⟩, by
          simpa [HasEnds] using hends⟩
      · exact .failWith ..

theorem guarded_checkMerge (pattern : Pattern) : Guarded pattern.checkMerge pattern.IsPlain := by
  unfold checkMerge
  split
  · exact .failWith ..
  · rename_i hfilters
    split
    · exact .failWith ..
    · rename_i hnode
      exact .ok () ⟨hnode, by simpa using hfilters⟩

end Pattern

theorem ReturnItem.guarded_nameText (name : Option String) : Guarded (nameText name) True := by
  cases name with
  | none => exact .ok _ trivial
  | some name => exact (Name.guarded_checkAlias ..).skip fun _ => .ok _ trivial

theorem Predicate.guarded_checkSupplied (config : Config) (bindings : Bindings) :
    Guarded (checkSupplied config bindings) True :=
  .forM _ fun _ => .map (Name.guarded_callerPlaceholder ..) _

/-- A vector is written only if the search for an element that is not finite finds none. -/
theorem guarded_vectorText (component : String) (elements : List Single) :
    Guarded (vectorText component elements) (∀ element ∈ elements, element.isFinite = true) := by
  unfold vectorText
  split
  · exact .failWith ..
  · rename_i hfinite
    refine .ok _ fun element hmem => ?_
    obtain ⟨position, hposition, rfl⟩ := List.mem_iff_getElem.mp hmem
    have hmem : (elements[position], position) ∈ elements.zipIdx :=
      List.mk_mem_zipIdx_iff_getElem?.mpr (List.getElem?_eq_getElem hposition)
    simpa using List.find?_eq_none.mp hfinite _ hmem

theorem Schema.property?_of_require {schema : Schema} {name : String} {property : Property}
    (hrequire : schema.require name = .ok property) : schema.property? name = some property := by
  unfold require at hrequire
  split at hrequire
  · cases hrequire
    assumption
  · cases hrequire

theorem Kind.eq_vector_of_dimension? {kind : Kind} {dimension : Nat}
    (hdimension : kind.dimension? = some dimension) : kind = .vector dimension := by
  cases kind with
  | vector => cases hdimension; rfl
  | _ => cases hdimension

namespace VectorSearch

/-- A property is a vector of the given length, or the search is refused. -/
theorem guarded_validate (search : VectorSearch) : Guarded search.validate
    ((∃ property, search.schema.property? search.property = some property ∧
      property.kind = .vector search.vector.length) ∧ 1 ≤ search.count) := by
  have hrequire : Guarded (search.schema.require search.property) True := by
    unfold Schema.require
    split
    · exact .ok _ trivial
    · exact .error rfl rfl _
  refine (hrequire.bind fun property hproperty => ?_).imp And.right
  split
  · exact .failWith ..
  · rename_i dimension hdimension
    split
    · exact .error rfl rfl _
    · rename_i hlength
      split
      · exact .failWith ..
      · rename_i hcount
        refine .ok () ⟨⟨property, Schema.property?_of_require hproperty, ?_⟩, ?_⟩
        · rw [Kind.eq_vector_of_dimension? hdimension, not_not.mp hlength]
        · omega

end VectorSearch

mutual

theorem Clause.guarded_validate : (clause : Clause) → Guarded clause.validate True
  | .subquery _ clauses _ => guarded_validateAll clauses
  | .vectorSearch search _ _ => search.guarded_validate.imp fun _ => trivial
  | .matching .. | .create _ | .merge .. | .set _ | .delete .. | .filter _ | .returning _
  | .passing .. | .unwind .. | .call .. => .ok () trivial

theorem guarded_validateAll : (clauses : List Clause) → Guarded (validateAll clauses) True
  | [] => .ok () trivial
  | clause :: clauses =>
    (clause.guarded_validate.bind fun _ _ => guarded_validateAll clauses).imp And.right

end

namespace Query

theorem checkFrom_eq_ok_iff {query : Query} {position : Nat} {u : Unit} :
    query.checkFrom position = .ok u ↔ ∀ clause ∈ query, clause.validate = .ok () := by
  induction query generalizing position with
  | nil => simp [checkFrom]
  | cons clause clauses ih =>
    rw [checkFrom, List.forall_mem_cons]
    cases hclause : clause.validate with
    | ok => exact ih.trans (by simp)
    | error => simp

/-- Clauses are checked in order, and the error is that of the first one that fails. -/
theorem checkFrom_eq_error {query : Query} {position : Nat} {error : QueryError}
    (hcheck : query.checkFrom position = .error error) :
    ∃ earlier clause later inner, query = earlier ++ clause :: later ∧
      (∀ other ∈ earlier, other.validate = .ok ()) ∧ clause.validate = .error inner ∧
      inner.atClause (position + earlier.length) = error := by
  induction query generalizing position with
  | nil => cases hcheck
  | cons clause clauses ih =>
    rw [checkFrom] at hcheck
    split at hcheck
    · rename_i hclause
      obtain ⟨earlier, other, later, inner, rfl, hearlier, hother, herror⟩ := ih hcheck
      refine ⟨clause :: earlier, other, later, inner, rfl,
        List.forall_mem_cons.mpr ⟨hclause, hearlier⟩, hother, ?_⟩
      rwa [List.length_cons, Nat.add_comm earlier.length, ← Nat.add_assoc]
    · rename_i inner hclause
      cases hcheck
      exact ⟨[], clause, clauses, inner, rfl, List.forall_mem_nil _, hclause, rfl⟩

end Query

end GraphQuery
