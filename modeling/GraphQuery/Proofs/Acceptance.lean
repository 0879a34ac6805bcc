import GraphQuery.Proofs.Composition
import GraphQuery.Proofs.Contract.Render

namespace GraphQuery

variable {config : Config} {query : Query} {statement : Statement}

theorem ne_nil_of_compile (hcompile : compile config query = .ok statement) : query ≠ [] := by
  rintro rfl
  unfold compile at hcompile
  split at hcompile <;> cases hcompile

/-- Only queries that are well-formed at any depth are compiled. -/
theorem wellFormed_of_compile (hcompile : compile config query = .ok statement) :
    query.WellFormed config.acceptsRegex := by
  obtain ⟨_, _, hrender⟩ := renderFrom_of_compile hcompile
  exact ⟨ne_nil_of_compile hcompile,
    (ensuresFrom query 0 "").of_ok _ _ _ (renderFrom_eq_ok.mp hrender)⟩

/-- Articles, each with the vector that stands for its text. -/
def articleSchema : Schema where
  name := "Article"
  properties :=
    [{ name := "title", kind := .string, isPrimaryKey := true },
      { name := "embedding", kind := .vector 2 }]

/-- The articles nearest to a vector, with the articles up to three citations away that someone has
    liked, of one topic and with a word in their titles. -/
def citedArticles : Query :=
  [.vectorSearch
      { schema := articleSchema, aliasName := "a", property := "embedding",
        vector := [.ofInt 1, .ofInt 0], count := 5, isPipelined := true }
      (some (.stringMatch ⟨"a", "title"⟩ .startsWith (.string "On "))) [],
    .subquery .call
      [.matching false
          [.path "" (.mk { aliasName := "a" } [] none) (some "CITES") .outgoing
            { least := some 1, greatest := some 3 }
            (.mk { aliasName := "b" } []
              (some (.existsQuery
                [.matching false
                  [.edge (.mk {} [] none) { label := some "LIKES" } .outgoing [] none
                    (.mk { aliasName := "b" } [] none)] none])))]
          (some (.and (.isIn ⟨"b", "topic"⟩ (.list [.string "logic"]))
            (.stringMatch ⟨"b", "title"⟩ .regex (.string "proof")))),
        .returning (.mk [.mk (.named "b") none] true [] none none)] ["b"],
    .returning (.mk [.mk (.named "a") none, .mk (.named "b") none] false [] none none)]

theorem citedArticles_wellFormed :
    ∃ statement, compile (.plain {}) citedArticles = .ok statement ∧
      citedArticles.WellFormed (Config.plain {}).acceptsRegex := by
  obtain ⟨statement, hcompile⟩ :=
    Except.exists_eq_ok (compile (.plain {}) citedArticles) (by decide +kernel)
  exact ⟨statement, hcompile, wellFormed_of_compile hcompile⟩

end GraphQuery
