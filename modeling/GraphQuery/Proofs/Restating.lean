import GraphQuery.Proofs.Acceptance
import GraphQuery.Proofs.Capture
import GraphQuery.Proofs.Location
import GraphQuery.Proofs.Replay.Render
import GraphQuery.Proofs.Template.Renumber
import GraphQuery.Proofs.Value.Reflexivity

namespace GraphQuery

namespace Bindings

variable {bindings : Bindings}

theorem Agrees.sublist {entries some : Fields Value} (hagrees : bindings.Agrees entries)
    (hsome : some.Sublist entries) : bindings.Agrees some :=
  ⟨hagrees.pairwise.sublist hsome, fun entry hmem => hagrees.bound entry (hsome.subset hmem)⟩

/-- What a name has been bound to can be bound to it once more exactly if it is equal to itself. -/
theorem bind_eq_self_iff {name : String} {v : Value} (hbound : bindings.get? name = some v) :
    bindings.bind name v = .ok bindings ↔ v.holdsNan = false := by
  rw [← Value.equals_self_iff, bind, hbound]
  by_cases hequals : v.equals v = true
  · simp [hequals]
  · simp [hequals]

/-- Of entries that have been bound, some can be bound once more exactly if each of these is equal
    to itself. -/
theorem agrees_again_iff {entries again : Fields Value} (hagrees : empty.Agrees entries)
    (hextends : empty.Extends entries bindings) (hagain : again.Sublist entries) :
    bindings.Agrees again ↔ ∀ entry ∈ again, entry.2.holdsNan = false := by
  have hbound : ∀ entry ∈ again, ∃ v, bindings.get? entry.1 = some v ∧
      (v = entry.2 ∨ v.equals entry.2 = true) := by
    intro entry hmem
    rw [hextends, get?_empty, Option.none_or]
    exact Agrees.eq_or_equals_of_get? hagrees.pairwise (hagain.subset hmem)
  constructor
  · intro hagrees entry hmem
    obtain ⟨v, hget, _⟩ := hbound entry hmem
    have hequals := hagrees.bound entry hmem v hget
    exact (Value.equals_self_iff _).mp (Agrees.equals_of_equals hequals hequals)
  · refine fun hself => ⟨hagrees.pairwise.sublist hagain, fun entry hmem v hget => ?_⟩
    obtain ⟨w, hget', heq⟩ := hbound entry hmem
    obtain rfl : w = v := Option.some.inj (hget'.symm.trans hget)
    rcases heq with rfl | hequals
    · exact (Value.equals_self_iff _).mpr (hself entry hmem)
    · exact hequals

end Bindings

variable {config : Config} {clauses front back : Query} {before middle after : Scope}
  {text : String} {statement : Statement}

theorem validate_of_compile (hcompile : compile config front = .ok statement) :
    config.validate = .ok () := by
  unfold compile at hcompile
  split at hcompile
  · cases hcompile
  · assumption

theorem Query.named_append (front back : Query) :
    Query.named (front ++ back) = front.named ++ back.named := by
  induction front with
  | nil => rfl
  | cons clause clauses ih =>
    rw [List.cons_append, named_cons, named_cons, ih, List.append_assoc]

/-- The names that come with the caller's own words are among those that values have of their
    own. -/
theorem Template.exists_named_of_mem_suppliedNames {template : Template} {name : String}
    (hmem : name ∈ template.suppliedNames) : ∃ entry ∈ template.named, entry.1 = name := by
  obtain ⟨piece, hpiece, hname⟩ := List.mem_flatMap.mp hmem
  cases piece with
  | verbatim text bindings =>
    obtain ⟨entry, hentry, rfl⟩ := List.mem_map.mp hname
    exact ⟨entry, List.mem_flatMap.mpr ⟨_, hpiece, hentry⟩, rfl⟩
  | text | value | shared | caller => cases hname

/-- Clauses that have been written name nothing as an anonymous parameter is named. -/
theorem isAnonymous_of_renderFrom (hstem : Name.IsStem config.parameterStem)
    (hrender : renderFrom config false 0 "" clauses before = .ok text after) :
    ∀ site ∈ clauses.named, Name.isAnonymous config.parameterStem site.1 = false := by
  obtain ⟨entries, _, hnamed⟩ := (bindsFrom hstem clauses 0 "").ok _ _ _ hrender
  intro site hsite
  have hsite : site ∈ namedEntries config.parameterStem entries := by
    rw [hnamed]
    exact hsite
  exact (mem_namedEntries.mp hsite).2

theorem admits_of_renderFrom (hstem : Name.IsStem config.parameterStem)
    (hrender : renderFrom config false 0 "" clauses before = .ok text after) :
    clauses.places.Admits config.parameterStem where
  callers := by
    obtain ⟨_, hwritten, _⟩ := writesFrom clauses _ _ _ _ _ _ hrender
    intro name hname
    rw [← clauses.places_template config, Template.callers_places] at hname
    exact hwritten.clauses.sound.isAnonymous_of_mem_callers hname
  supplied := by
    intro name hname
    obtain ⟨site, hsite, rfl⟩ := Template.exists_named_of_mem_suppliedNames hname
    exact isAnonymous_of_renderFrom hstem hrender site hsite

/-- Clauses that have been written can be written once more, behind whatever has been written by
    then, exactly if this agrees with the names that their values have of their own. -/
theorem exists_renderFrom_again_iff (hstem : Name.IsStem config.parameterStem)
    (hrender : renderFrom config false 0 "" clauses before = .ok text after)
    (hnumbered : middle.Numbered config.parameterStem) (position : Nat) (front : String) :
    (∃ text after, renderFrom config false position front clauses middle = .ok text after) ↔
      middle.bindings.Agrees clauses.named := by
  constructor
  · rintro ⟨text', after', hagain⟩
    obtain ⟨entries, hadds, hnamed⟩ := (bindsFrom hstem clauses position front).ok _ _ _ hagain
    have hnamed : clauses.named = namedEntries config.parameterStem entries := hnamed.symm
    rw [hnamed]
    exact hadds.agrees.sublist List.filter_sublist
  · intro hagrees
    have hentries := Template.agrees_entries_of_named hnumbered
      (isAnonymous_of_renderFrom hstem hrender) hagrees
    obtain ⟨text', after', hagain, _⟩ := (replaysFrom clauses 0 "" front).replay _ _ _ hrender
      (admits_of_renderFrom hstem hrender) middle hentries
    exact ⟨text', after', renderFrom_eq_ok_iff.mpr (renderFrom_eq_ok_iff.mp hagain)⟩

/-- Where the names of their own that values have are bound, writing clauses once more changes no
    parameter but anonymous ones. -/
theorem get?_of_renderFrom_again (hstem : Name.IsStem config.parameterStem)
    (hbound : ∀ site ∈ clauses.named, ∃ v, middle.bindings.get? site.1 = some v)
    {position : Nat} {front name : String}
    (hagain : renderFrom config false position front clauses middle = .ok text after)
    (hown : Name.isAnonymous config.parameterStem name = false) :
    after.bindings.get? name = middle.bindings.get? name := by
  obtain ⟨entries, hadds, hnamed⟩ := (bindsFrom hstem clauses position front).ok _ _ _ hagain
  rw [hadds.bindings]
  cases hget : Fields.get? entries name with
  | none => exact Option.or_none
  | some v =>
    have hsite : (name, v) ∈ clauses.named := by
      change (name, v) ∈ (clausePlaces clauses).named
      rw [← hnamed]
      exact mem_namedEntries.mpr ⟨Fields.mem_of_get? hget, hown⟩
    obtain ⟨w, hbound⟩ := hbound _ hsite
    rw [hbound, Option.some_or]

/-- Clauses that stand at the front of a query can be stated once more at its end, unless the same
    name would have to be bound to something that is not a number: no other value differs from
    itself, so that nothing is bound that was not bound before. -/
theorem compile_restated_iff (hcompile : compile config (front ++ back) = .ok statement) :
    ((∃ again, compile config (front ++ back ++ front) = .ok again) ↔
        ∀ site ∈ front.named, site.2.holdsNan = false) ∧
      (∀ again, compile config (front ++ back ++ front) = .ok again →
        ∀ name, Name.isAnonymous config.parameterStem name = false →
          again.bindings.get? name = statement.bindings.get? name) ∧
      ∀ (bindings : Bindings) (name : String) (v : Value), bindings.get? name = some v →
        (bindings.bind name v = .ok bindings ↔ v.holdsNan = false) := by
  have hvalid := validate_of_compile hcompile
  have hne := ne_nil_of_compile hcompile
  obtain ⟨hstem, count, hrender⟩ := renderFrom_of_compile hcompile
  have hrender := renderFrom_eq_ok.mp hrender
  obtain ⟨_, _, hfront, _⟩ := renderFrom_append_eq_ok_iff.mp hrender
  obtain ⟨entries, hadds, hnamed⟩ := (bindsFrom hstem (front ++ back) 0 "").ok _ _ _ hrender
  -- What the clauses at the front bind under names of their own comes first.
  have hagain : front.named.Sublist entries := by
    have hnamed : namedEntries config.parameterStem entries = Query.named (front ++ back) := hnamed
    have hsublist : (front.named ++ back.named).Sublist entries := by
      rw [← Query.named_append, ← hnamed]
      exact List.filter_sublist
    exact (List.sublist_append_left _ _).trans hsublist
  refine ⟨?_, ?_, fun bindings name v => Bindings.bind_eq_self_iff⟩
  · rw [exists_compile_iff hvalid (List.append_ne_nil_of_left_ne_nil hne front),
      ← Bindings.agrees_again_iff hadds.agrees hadds.bindings hagain,
      ← exists_renderFrom_again_iff hstem hfront (hadds.numbered_after (Scope.numbered_empty _ 0))
        (0 + (front ++ back).length) statement.text]
    constructor
    · rintro ⟨_, text, after, hboth⟩
      obtain ⟨_, middle, hmiddle, hlast⟩ := renderFrom_append_eq_ok_iff.mp hboth
      rw [hrender] at hmiddle
      cases hmiddle
      exact ⟨text, after, hlast⟩
    · rintro ⟨text, after, hlast⟩
      obtain ⟨hchecks, _⟩ := (exists_compile_iff hvalid hne).mp ⟨statement, hcompile⟩
      refine ⟨?_, text, after, renderFrom_append_eq_ok_iff.mpr ⟨_, _, hrender, hlast⟩⟩
      rw [List.forall_mem_append]
      exact ⟨hchecks, fun clause hmem => hchecks clause (List.mem_append_left _ hmem)⟩
  · intro again hcompile' name hown
    obtain ⟨_, count', hrender'⟩ := renderFrom_of_compile hcompile'
    obtain ⟨_, middle, hmiddle, hlast⟩ :=
      renderFrom_append_eq_ok_iff.mp (renderFrom_eq_ok.mp hrender')
    rw [hrender] at hmiddle
    cases hmiddle
    refine get?_of_renderFrom_again hstem (fun site hsite => ?_) hlast hown
    obtain ⟨v, hget, _⟩ :=
      Bindings.Agrees.eq_or_equals_of_get? hadds.agrees.pairwise (hagain.subset hsite)
    refine ⟨v, ?_⟩
    rw [hadds.bindings, Bindings.get?_empty, Option.none_or, hget]

/-- The people with a score. -/
def peopleByScore (score : Double) : Query :=
  [.matching false [.node (.mk { aliasName := "p" } [("score", .value (.double score))] none)] none]

/-- The friends of Ada are asked for again behind the people with a mail address. The name of both
    queries is that of a person, and the friends that are counted are numbered on. -/
theorem friendsOfAda_restated :
    ∃ statement again,
      compile (.plain {}) (friendsOfAda ++ peopleByMail "a@x.com" "a@x.com") = .ok statement ∧
      compile (.plain {}) (friendsOfAda ++ peopleByMail "a@x.com" "a@x.com" ++ friendsOfAda) =
        .ok again ∧
      again.bindings.get? "p_name" = statement.bindings.get? "p_name" ∧
      statement.bindings.bind "p_email" (.string "a@x.com") = .ok statement.bindings := by
  obtain ⟨statement, hcompile⟩ := Except.exists_eq_ok
    (compile (.plain {}) (friendsOfAda ++ peopleByMail "a@x.com" "a@x.com")) (by decide +kernel)
  have hmail : statement.bindings.get? "p_email" = some (.string "a@x.com") := by
    rw [get?_of_compile hcompile]
    rfl
  obtain ⟨hiff, hkept, hbind⟩ := compile_restated_iff hcompile
  have hself : ∀ site ∈ friendsOfAda.named, site.2.holdsNan = false := by
    decide +kernel
  obtain ⟨again, hagain⟩ := hiff.mpr hself
  have hname := hkept again hagain "p_name" (by decide +kernel)
  exact ⟨statement, again, hcompile, hagain, hname, (hbind _ _ _ hmail).mpr rfl⟩

/-- A score that is not a number is in conflict with itself. -/
theorem peopleByScore_conflicts :
    (Config.plain {}).validate = .ok () ∧ peopleByScore .nan ≠ [] ∧
      (∃ statement, compile (.plain {}) (peopleByScore .nan ++ []) = .ok statement) ∧
      compile (.plain {}) (peopleByScore .nan ++ [] ++ peopleByScore .nan) =
        .error (.conflict (some 1) "p_score" (.double .nan) (.double .nan)) ∧
      (Bindings.ofList [("p_score", .double .nan)]).bind "p_score" (.double .nan) =
        .error (.conflict none "p_score" (.double .nan) (.double .nan)) := by
  refine ⟨by decide +kernel, by simp [peopleByScore], ?_, ?_, ?_⟩
  · exact Except.exists_eq_ok (compile (.plain {}) (peopleByScore .nan ++ [])) (by decide +kernel)
  · rfl
  · rfl

end GraphQuery
