import GraphQuery.Proofs.Compile

namespace GraphQuery

namespace Piece

/-- The name that a value shares with the others of its alias and column, if it has one. -/
@[simp]
def sharedName? : Piece → Option String
  | shared aliasName column _ => some (Name.semantic aliasName column)
  | _ => none

end Piece

namespace Template

/-- The names that values share by alias and column, in order. -/
def sharedNames (template : Template) : List String :=
  template.filterMap Piece.sharedName?

theorem sharedNames_places (template : Template) :
    template.places.sharedNames = template.sharedNames := by
  unfold sharedNames places
  rw [List.filterMap_filter]
  congr 1
  funext piece
  cases piece <;> rfl

theorem suppliedNames_places (template : Template) :
    template.places.suppliedNames = template.suppliedNames := by
  induction template with
  | nil => rfl
  | cons piece template ih =>
    cases piece with
    | text => exact ih
    | value | shared | caller | verbatim => exact congrArg (_ ++ ·) ih

variable {stem : String} {template : Template} {name : String}

/-- The names of the parameters that the caller binds are none of those that are handed out. -/
theorem Sound.isAnonymous_of_mem_callers (hsound : Sound stem template)
    (hcaller : name ∈ template.callers) : Name.isAnonymous stem name = false := by
  induction hsound with
  | nil => cases hcaller
  | text _ _ ih | verbatim _ ih | value _ _ ih | shared _ _ _ ih => exact ih hcaller
  | caller _ hanonymous _ _ ih =>
    rcases List.mem_cons.mp hcaller with rfl | hcaller
    · exact hanonymous
    · exact ih hcaller

/-- A name that is not handed out is bound where values share it or where it is supplied. -/
theorem mem_names_entries_iff (hnamed : Name.isAnonymous stem name = false) (n : Nat) :
    name ∈ Fields.names (template.entries stem n) ↔
      name ∈ template.sharedNames ∨ name ∈ template.suppliedNames := by
  induction template generalizing n with
  | nil => simp [entries, numbered, Fields.names, sharedNames, suppliedNames]
  | cons piece template ih =>
    have hnames : Fields.names (entries stem n (piece :: template)) =
        Fields.names (piece.entries stem n) ++
          Fields.names (entries stem (n + count [piece]) template) := List.map_append
    rw [hnames, List.mem_append, ih]
    unfold sharedNames suppliedNames
    cases piece with
    | text | caller => simp [Piece.entries, Piece.suppliedNames, Fields.names]
    | value v =>
      have hne : name ≠ Name.anonymous stem (n + 1) := by
        rintro rfl
        rw [Name.isAnonymous_anonymous] at hnamed
        cases hnamed
      simp [Piece.entries, Piece.suppliedNames, Fields.names, hne]
    | shared => simp [Piece.entries, Piece.suppliedNames, Fields.names, or_assoc]
    | verbatim => simp [Piece.entries, Piece.suppliedNames, or_left_comm]

end Template

namespace Query

/-- The names that values of a query share by alias and column: those of the inline properties of
    patterns with an alias, and of what merges match on under one. -/
def sharedNames (query : Query) : List String :=
  query.places.sharedNames

/-- The names of the values that come with the conditions of a query in the caller's own words. -/
def suppliedNames (query : Query) : List String :=
  query.places.suppliedNames

end Query

variable {config : Config} {query : Query} {statement : Statement}

/-- The name of a parameter that the caller binds is never one that is handed out. It is bound by
    the compilation nevertheless if values of the query share it by alias and column, and otherwise
    only if it comes with a condition in the caller's own words. -/
theorem compile_captures_iff (hcompile : compile config query = .ok statement) {name : String}
    (hcaller : name ∈ query.callers) :
    Name.isAnonymous config.parameterStem name = false ∧
      (statement.bindings.contains name = true ↔
        name ∈ query.sharedNames ∨ name ∈ query.suppliedNames) := by
  obtain ⟨_, _, hwritten⟩ := written_of_compile hcompile
  have hcaller : name ∈ (query.template config).callers := by
    rwa [query.callers_template]
  have hnamed := hwritten.sound.isAnonymous_of_mem_callers hcaller
  refine ⟨hnamed, ?_⟩
  rw [contains_of_compile hcompile, Template.mem_names_entries_iff hnamed, Query.sharedNames,
    Query.suppliedNames, ← query.places_template config, Template.sharedNames_places,
    Template.suppliedNames_places]

/-- The people of a name whose nickname the caller gives. -/
def peopleByNickname (name parameter : String) : Query :=
  [.matching false
      [.node (.mk { aliasName := "p", label := some "Person" } [("name", .value (.string name))]
        none)]
      (some (.compare ⟨"p", "nickname"⟩ .eq (.parameter parameter))),
    .returning (.mk [.mk (.named "p") none] false [] none none)]

theorem peopleByNickname_captures_iff :
    ∃ statement, compile (.plain {}) (peopleByNickname "Ada" "nickname") = .ok statement ∧
      "nickname" ∈ (peopleByNickname "Ada" "nickname").callers ∧
      statement.bindings.contains "nickname" = false := by
  obtain ⟨statement, hcompile⟩ := Except.exists_eq_ok
    (compile (.plain {}) (peopleByNickname "Ada" "nickname")) (by decide +kernel)
  have hcaller : "nickname" ∈ (peopleByNickname "Ada" "nickname").callers :=
    List.mem_singleton_self _
  refine ⟨statement, hcompile, hcaller, ?_⟩
  rw [Bool.eq_false_iff, ne_eq, (compile_captures_iff hcompile hcaller).2]
  decide

/-- A parameter that the caller binds under the shared name of an inline property gets the value of
    the property: no condition of the query is in the caller's own words. -/
theorem peopleByNickname_captured :
    ∃ statement, compile (.plain {}) (peopleByNickname "Ada" "p_name") = .ok statement ∧
      "p_name" ∈ (peopleByNickname "Ada" "p_name").callers ∧
      (peopleByNickname "Ada" "p_name").hasVerbatim = false ∧
      statement.text =
        "MATCH (p:Person \x7bname: $p_name\x7d) WHERE p.nickname = $p_name RETURN p" ∧
      statement.bindings.get? "p_name" = some (.string "Ada") := by
  refine ⟨_, rfl, ?_, ?_, ?_, ?_⟩
  · exact List.mem_singleton_self _
  · rfl
  · rfl
  · rfl

end GraphQuery
