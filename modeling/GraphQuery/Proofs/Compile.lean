import GraphQuery.Proofs.Template.Erasure
import GraphQuery.Proofs.Template.Parameter
import GraphQuery.Proofs.Template.Place
import GraphQuery.Proofs.Template.Render

namespace GraphQuery

variable {config : Config} {query : Query} {statement : Statement}

/-- What a clause binds when it is written on its own are the values at its places. -/
theorem Clause.extends_of_render {clause : Clause} {n : Nat} {text : String} {after : Scope}
    (hrender : clause.render config ⟨n, .empty⟩ = .ok text after) :
    Bindings.empty.Extends (clause.places.entries config.parameterStem n) after.bindings := by
  have hbindings := (clause.writes _ _ _ hrender).bindings
  rwa [← Template.entries_places, clause.places_template] at hbindings

/-- A query that is compiled is written clause by clause, with nothing bound and no name handed out
    before. -/
theorem renderFrom_of_compile (hcompile : compile config query = .ok statement) :
    Name.IsStem config.parameterStem ∧
      ∃ count, renderFrom config true 0 "" query {} =
        .ok statement.text ⟨count, statement.bindings⟩ := by
  unfold compile at hcompile
  split at hcompile
  · cases hcompile
  · rename_i hvalid
    refine ⟨Name.isStem_of_validate hvalid, ?_⟩
    split at hcompile
    · rename_i text scope hrender
      cases hcompile
      simp only [Query.render, RenderM.unless_fail_eq_ok, RenderM.bind_eq_ok, RenderM.lift_eq_ok]
        at hrender
      obtain ⟨_, _, _, ⟨_, rfl⟩, hrender⟩ := hrender
      exact ⟨scope.count, hrender⟩
    · cases hcompile

/-- A statement is written for the template of its query. -/
theorem written_of_compile (hcompile : compile config query = .ok statement) :
    Name.IsStem config.parameterStem ∧
      ∃ count, Written config (query.template config) {} statement.text
        ⟨count, statement.bindings⟩ := by
  obtain ⟨hstem, count, hrender⟩ := renderFrom_of_compile hcompile
  obtain ⟨texts, hwritten, htext⟩ := writesFrom query _ _ _ _ _ _ hrender
  refine ⟨hstem, count, ?_⟩
  rw [htext]
  exact hwritten.clauses

/-- The text of a statement is its template with the anonymous parameters numbered from one. -/
theorem text_of_compile (hcompile : compile config query = .ok statement) :
    statement.text = (query.template config).fill config.parameterStem 0 := by
  obtain ⟨_, _, hwritten⟩ := written_of_compile hcompile
  exact hwritten.text_eq

theorem get?_of_compile (hcompile : compile config query = .ok statement) (name : String) :
    statement.bindings.get? name =
      Fields.get? ((query.template config).entries config.parameterStem 0) name := by
  obtain ⟨_, _, hwritten⟩ := written_of_compile hcompile
  rw [hwritten.bindings name, Bindings.get?_empty, Option.none_or]

theorem contains_of_compile (hcompile : compile config query = .ok statement) {name : String} :
    statement.bindings.contains name = true ↔
      name ∈ Fields.names ((query.template config).entries config.parameterStem 0) := by
  rw [Bindings.contains, get?_of_compile hcompile, Fields.isSome_get?_iff]

/-- What is read behind the dollar signs of a statement are the names at the places of its
    parameters. -/
theorem placeholders_of_compile (hcompile : compile config query = .ok statement)
    (hverbatim : query.hasVerbatim = false) :
    statement.placeholders = (query.template config).names config.parameterStem 0 := by
  obtain ⟨hstem, _, hwritten⟩ := written_of_compile hcompile
  have hend : Statement.Detached [] := by
    intro c hmem
    cases hmem
  rw [← query.hasVerbatim_template config] at hverbatim
  have hread := hwritten.sound.namesFrom_fill hstem hverbatim 0 hend
  rw [List.append_nil, ← text_of_compile hcompile, Statement.namesFrom, List.append_nil] at hread
  exact hread

/-- The people of a name, in one of some cities and of an age that the caller gives, each with the
    number of friends made since a year. -/
def friendCounts (name : String) (cities : List String) (year : SizedInt) : Query :=
  [.matching false
      [.node (.mk { aliasName := "p", label := some "Person" } [("name", .value (.string name))]
        none)]
      (some (.and (.compare ⟨"p", "age"⟩ .ge (.parameter "least"))
        (.isIn ⟨"p", "city"⟩ (.list (cities.map .string))))),
    .returning (.mk
      [.mk (.named "p") none,
        .mk (.subquery .count
          [.matching false
            [.edge (.mk { aliasName := "p" } [] none) { aliasName := "k", label := some "KNOWS" }
              .outgoing [] none (.mk {} [] none)]
            (some (.compare ⟨"k", "since"⟩ .ge (.value (.int year))))] []) (some "friends")]
      false [] none none)]

/-- The friends of those who are called Ada, in two cities. -/
def friendsOfAda : Query :=
  friendCounts "Ada" ["Paris", "Rome"] ⟨.int64, 2020, by decide⟩

/-- The friends of those who are called Bob, in no city at all. -/
def friendsOfBob : Query :=
  friendCounts "Bob" [] ⟨.int64, 1999, by decide⟩

/-- Every parameter of a statement is bound by the compilation or by the caller, and every bound
    parameter is referred to. -/
theorem compile_placeholders_iff (hcompile : compile config query = .ok statement)
    (hverbatim : query.hasVerbatim = false) (name : String) :
    name ∈ statement.placeholders ↔
      statement.bindings.contains name = true ∨ name ∈ query.callers := by
  rw [placeholders_of_compile hcompile hverbatim, contains_of_compile hcompile,
    ← query.callers_template config]
  rw [← query.hasVerbatim_template config] at hverbatim
  exact Template.mem_names_iff hverbatim 0

theorem friendCounts_placeholders :
    ∃ statement, compile (.plain {}) friendsOfAda = .ok statement ∧
      ("least" ∈ statement.placeholders ↔
        statement.bindings.contains "least" = true ∨ "least" ∈ friendsOfAda.callers) := by
  obtain ⟨statement, hcompile⟩ :=
    Except.exists_eq_ok (compile (.plain {}) friendsOfAda) (by decide +kernel)
  have hverbatim : friendsOfAda.hasVerbatim = false := by decide +kernel
  exact ⟨statement, hcompile, compile_placeholders_iff hcompile hverbatim "least"⟩

/-- The values that have no name of their own are numbered from one in the order of the statement,
    and each is bound to the name that stands at its place: the statement is a template in which the
    values of the query stand in their order, with the numbers filled in. -/
theorem compile_numbering (hcompile : compile config query = .ok statement)
    (hverbatim : query.hasVerbatim = false) :
    statement.text = (query.template config).fill config.parameterStem 0 ∧
      (query.template config).values = query.sites ∧
      statement.placeholders.filter (Name.isAnonymous config.parameterStem) =
        (List.range query.sites.length).map
          (fun i => Name.anonymous config.parameterStem (i + 1)) ∧
      (∀ name, Name.isAnonymous config.parameterStem name = true →
        (statement.bindings.contains name = true ↔
          ∃ i < query.sites.length,
            name = Name.anonymous config.parameterStem (i + 1))) ∧
      ∀ i (hi : i < query.sites.length),
        statement.bindings.get? (Name.anonymous config.parameterStem (i + 1)) =
          some query.sites[i] := by
  obtain ⟨hstem, _, hwritten⟩ := written_of_compile hcompile
  have hplaceholders := placeholders_of_compile hcompile hverbatim
  rw [← query.hasVerbatim_template config] at hverbatim
  have hcount : (query.template config).count = query.sites.length :=
    congrArg List.length (query.values_template config)
  have hvalue : ∀ i (hi : i < query.sites.length),
      statement.bindings.get? (Name.anonymous config.parameterStem (i + 1)) =
        some query.sites[i] := by
    intro i hi
    have hentry := hwritten.sound.get?_entries hstem hverbatim 0 i
    rw [Nat.zero_add, ← get?_of_compile hcompile, query.values_template] at hentry
    rw [hentry, List.getElem?_eq_getElem hi]
  refine ⟨text_of_compile hcompile, query.values_template config, ?_,
    fun name hanonymous => ⟨fun hcontains => ?_, ?_⟩, hvalue⟩
  · rw [hplaceholders, hwritten.sound.filter_names hstem hverbatim, hcount,
      List.range'_eq_map_range, List.map_map]
    refine List.map_congr_left fun i _ => ?_
    exact congrArg (Name.anonymous config.parameterStem) (show 0 + 1 + i = i + 1 by omega)
  · rw [contains_of_compile hcompile] at hcontains
    obtain ⟨i, hi, rfl⟩ :=
      hwritten.sound.eq_anonymous_of_mem_entries hstem hverbatim hcontains hanonymous
    exact ⟨i, hcount ▸ hi, congrArg (Name.anonymous config.parameterStem) (by omega)⟩
  · rintro ⟨i, hi, rfl⟩
    rw [Bindings.contains, hvalue i hi, Option.isSome_some]

theorem friendCounts_numbering :
    ∃ statement, compile (.plain {}) friendsOfAda = .ok statement ∧
      (friendsOfAda.template (.plain {})).values =
        [.list [.string "Paris", .string "Rome"], .int ⟨.int64, 2020, by decide⟩] ∧
      statement.placeholders.filter (Name.isAnonymous "param") = ["param1", "param2"] ∧
      statement.bindings.get? "param1" = some (.list [.string "Paris", .string "Rome"]) ∧
      statement.bindings.get? "param2" = some (.int ⟨.int64, 2020, by decide⟩) := by
  obtain ⟨statement, hcompile⟩ :=
    Except.exists_eq_ok (compile (.plain {}) friendsOfAda) (by decide +kernel)
  have hverbatim : friendsOfAda.hasVerbatim = false := by decide +kernel
  obtain ⟨_, hvalues, hplaceholders, _, hbound⟩ := compile_numbering hcompile hverbatim
  exact ⟨statement, hcompile, hvalues, hplaceholders, hbound 0 (by decide), hbound 1 (by decide)⟩

/-- The values of a query have no influence on its statement: neither on the text nor on which
    parameters it has. -/
theorem compile_eq_of_erased_eq {first second : Query} {other : Statement}
    (hfirst : compile config first = .ok statement) (hsecond : compile config second = .ok other)
    (herased : first.erased = second.erased) :
    statement.text = other.text ∧
      ∀ name, statement.bindings.contains name = other.bindings.contains name := by
  have htemplate : (first.template config).erased = (second.template config).erased := by
    rw [← first.template_erased, herased, second.template_erased]
  constructor
  · rw [text_of_compile hfirst, text_of_compile hsecond, ← Template.fill_erased, htemplate,
      Template.fill_erased]
  · intro name
    rw [Bool.eq_iff_iff, contains_of_compile hfirst, contains_of_compile hsecond,
      ← Template.names_entries_erased, htemplate, Template.names_entries_erased]

theorem friendCounts_text_eq :
    ∃ statement other, compile (.plain {}) friendsOfAda = .ok statement ∧
      compile (.plain {}) friendsOfBob = .ok other ∧ statement.text = other.text ∧
      ∀ name, statement.bindings.contains name = other.bindings.contains name := by
  obtain ⟨statement, hfirst⟩ :=
    Except.exists_eq_ok (compile (.plain {}) friendsOfAda) (by decide +kernel)
  obtain ⟨other, hsecond⟩ :=
    Except.exists_eq_ok (compile (.plain {}) friendsOfBob) (by decide +kernel)
  exact ⟨statement, other, hfirst, hsecond, compile_eq_of_erased_eq hfirst hsecond rfl⟩

end GraphQuery
