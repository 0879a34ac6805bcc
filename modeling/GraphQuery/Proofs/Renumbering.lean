import GraphQuery.Proofs.Replay.Render
import GraphQuery.Proofs.Template.Renumber

namespace GraphQuery

variable {config : Config} {stem : String} {clause : Clause} {n n' : Nat} {text text' : String}
  {after after' : Scope}

namespace Clause

/-- What a clause is written for does not depend on the stem of anonymous names, which it has at the
    places of values only when it is filled in. -/
theorem template_withStem (config : Config) (stem : String) (clause : Clause) :
    clause.template (config.withStem stem) = clause.template config := by
  -- The recursion is opened as a whole: both sides then read the same settings.
  delta Clause.template
  rfl

/-- A clause that can be written can be written with any numbering and any stem that none of the
    names from the caller has. -/
theorem exists_render_withStem (hstem : Name.IsStem config.parameterStem)
    (hstem' : Name.IsStem stem) (hverbatim : clause.places.hasVerbatim = false)
    (hcallers : ∀ name ∈ clause.places.callers, Name.isAnonymous stem name = false)
    (hrender : clause.render config ⟨n, .empty⟩ = .ok text after) (n' : Nat) :
    ∃ text' after', clause.render (config.withStem stem) ⟨n', .empty⟩ = .ok text' after' := by
  obtain ⟨entries, hadds, hnamed⟩ := (clause.binds hstem).ok _ _ _ hrender
  have hpairwise : clause.places.named.Pairwise fun a b => a.1 = b.1 → a.2.equals b.2 = true := by
    rw [← hnamed]
    exact hadds.agrees.pairwise.filter _
  have hadmits : clause.places.Admits stem := by
    refine ⟨hcallers, ?_⟩
    rw [Template.suppliedNames_eq_nil hverbatim]
    exact List.forall_mem_nil _
  obtain ⟨text', after', hrender', _⟩ := clause.replays.replay _ _ _ hrender hadmits ⟨n', .empty⟩
    (Template.agrees_entries hstem' hverbatim hpairwise n')
  exact ⟨text', after', hrender'⟩

/-- Two ways to write a clause, which differ in the numbering and in the stem only, take equally
    many names and differ by a renaming. -/
theorem renamed_of_render {rename : String → String}
    (hrename : Name.Renumbers rename config.parameterStem n stem n')
    (hstem : Name.IsStem config.parameterStem) (hstem' : Name.IsStem stem)
    (hverbatim : clause.places.hasVerbatim = false)
    (hrender : clause.render config ⟨n, .empty⟩ = .ok text after)
    (hrender' : clause.render (config.withStem stem) ⟨n', .empty⟩ = .ok text' after') :
    ∃ k, after.count = n + k ∧ after'.count = n' + k ∧ text' = Statement.renamed rename text ∧
      after'.bindings = after.bindings.renamed rename := by
  have hwritten := clause.writes _ _ _ hrender
  have hwritten' := clause.writes _ _ _ hrender'
  rw [template_withStem] at hwritten'
  have hplain : (clause.template config).hasVerbatim = false := by
    rwa [← Template.hasVerbatim_places, clause.places_template]
  refine ⟨(clause.template config).count, hwritten.count_eq, hwritten'.count_eq, ?_, ?_⟩
  · rw [Statement.renamed, hwritten.text_eq,
      hwritten.sound.renamedFrom_fill hrename hstem hplain, String.ofList_toList]
    exact hwritten'.text_eq
  · have hbindings := hwritten.bindings.renamed fun first hfirst second hsecond =>
      hrename.injective hstem hstem' (Template.isHandedOut_of_mem_entries hplain hfirst)
        (Template.isHandedOut_of_mem_entries hplain hsecond)
    rw [← Template.entries_renumbered hrename hstem hplain] at hbindings
    exact hwritten'.bindings.unique hbindings

end Clause

/-- Writing a clause depends on the numbering and on the stem of anonymous names in the names only:
    it succeeds with the one numbering exactly if it does with the other, takes equally many names,
    and gives the same text and the same parameters but for the anonymous names. -/
theorem render_renumbered (hvalid : config.validate = .ok ())
    (hvalid' : (config.withStem stem).validate = .ok ())
    (hverbatim : clause.places.hasVerbatim = false)
    (hcallers : ∀ name ∈ clause.places.callers,
      Name.isAnonymous config.parameterStem name = false ∧ Name.isAnonymous stem name = false)
    (n n' : Nat) :
    ((∃ text after, clause.render config ⟨n, .empty⟩ = .ok text after) ↔
      ∃ text after, clause.render (config.withStem stem) ⟨n', .empty⟩ = .ok text after) ∧
    ∀ text after text' after', clause.render config ⟨n, .empty⟩ = .ok text after →
      clause.render (config.withStem stem) ⟨n', .empty⟩ = .ok text' after' →
        ∃ k, after.count = n + k ∧ after'.count = n' + k ∧
          text' = Statement.renamed (Name.renumber config.parameterStem n stem n') text ∧
          after'.bindings =
            after.bindings.renamed (Name.renumber config.parameterStem n stem n') := by
  have hstem := Name.isStem_of_validate hvalid
  have hstem' : Name.IsStem stem := Name.isStem_of_validate hvalid'
  refine ⟨⟨?_, ?_⟩, ?_⟩
  · rintro ⟨text, after, hrender⟩
    exact Clause.exists_render_withStem hstem hstem' hverbatim
      (fun name hname => (hcallers name hname).2) hrender n'
  · rintro ⟨text, after, hrender⟩
    have hback : (config.withStem stem).withStem config.parameterStem = config := rfl
    rw [← hback]
    exact Clause.exists_render_withStem hstem' hstem hverbatim
      (fun name hname => (hcallers name hname).1) hrender n
  · intro text after text' after' hrender hrender'
    exact Clause.renamed_of_render (Name.renumbers_renumber ..) hstem hstem' hverbatim hrender
      hrender'

/-- The people of a name in some cities, who are of an age that the caller gives. -/
def peopleInCities (name : String) (cities : List String) : Clause :=
  .matching false
    [.node (.mk { aliasName := "p", label := some "Person" } [("name", .value (.string name))]
      none)]
    (some (.and (.isIn ⟨"p", "city"⟩ (.list (cities.map .string)))
      (.compare ⟨"p", "age"⟩ .ge (.parameter "least"))))

/-- Behind four other values the cities are the fifth, and under another stem they may be the
    first. -/
theorem peopleInCities_renumbered :
    ∃ text after text' after',
      (peopleInCities "Ada" ["Paris"]).render (.plain {}) ⟨4, .empty⟩ = .ok text after ∧
      (peopleInCities "Ada" ["Paris"]).render ((Config.plain {}).withStem "q") ⟨0, .empty⟩ =
        .ok text' after' ∧
      after.count = 5 ∧ after'.count = 1 ∧
      text' = Statement.renamed (Name.renumber "param" 4 "q" 0) text ∧
      after'.bindings = after.bindings.renamed (Name.renumber "param" 4 "q" 0) := by
  have hvalid : (Config.plain {}).validate = .ok () := by decide +kernel
  have hvalid' : ((Config.plain {}).withStem "q").validate = .ok () := by decide +kernel
  have hcallers : ∀ name ∈ (peopleInCities "Ada" ["Paris"]).places.callers,
      Name.isAnonymous "param" name = false ∧ Name.isAnonymous "q" name = false := by
    decide +kernel
  obtain ⟨hiff, hrenamed⟩ := render_renumbered hvalid hvalid' (by decide) hcallers 4 0
  have hcount : RenderM.countAfter? ((peopleInCities "Ada" ["Paris"]).render (.plain {}))
      ⟨4, .empty⟩ = some 5 := by
    decide +kernel
  obtain ⟨text, after, hrender, hfive⟩ := RenderM.exists_of_countAfter? hcount
  obtain ⟨text', after', hrender'⟩ := hiff.mp ⟨text, after, hrender⟩
  obtain ⟨k, hk, hk', htext, hbindings⟩ := hrenamed _ _ _ _ hrender hrender'
  exact ⟨text, after, text', after', hrender, hrender', hfive, by omega, htext, hbindings⟩

/-- Between quotes and in names of other kinds nothing is renamed. -/
example : Statement.renamed (Name.renumber "param" 4 "q" 0)
    "RETURN '$param5', $param5, $p_name" = "RETURN '$param5', $q1, $p_name" := by
  cbv

end GraphQuery
