import GraphQuery.Proofs.Composition

namespace GraphQuery

/-- The settings with another stem for the names of anonymous parameters. -/
def Config.withStem (config : Config) (stem : String) : Config :=
  { config with parameterStem := stem }

/-- The name of a parameter that the caller binds is accepted under any stem that it does not
    have. -/
theorem Name.callerPlaceholder_withStem {config : Config} {stem component name text : String}
    (hcaller : callerPlaceholder config component name = .ok text)
    (hanonymous : isAnonymous stem name = false) :
    callerPlaceholder (config.withStem stem) component name = .ok text := by
  obtain ⟨hidentifier, _, rfl⟩ := of_callerPlaceholder hcaller
  have hstem : isAnonymous (config.withStem stem).parameterStem name = false := hanonymous
  rw [callerPlaceholder, if_neg (by simp [hidentifier]), if_neg (by simp [hstem])]

namespace Template

/-- The names that come from the caller are none of those that are handed out under a stem. -/
structure Admits (stem : String) (template : Template) : Prop where
  callers : ∀ name ∈ template.callers, Name.isAnonymous stem name = false
  supplied : ∀ name ∈ template.suppliedNames, Name.isAnonymous stem name = false

theorem callers_append (first second : Template) :
    callers (first ++ second) = callers first ++ callers second :=
  List.filterMap_append

theorem suppliedNames_append (first second : Template) :
    suppliedNames (first ++ second) = suppliedNames first ++ suppliedNames second :=
  List.flatMap_append

theorem Admits.of_append {stem : String} {first second : Template}
    (hadmits : Admits stem (first ++ second)) : first.Admits stem ∧ second.Admits stem := by
  have hcallers := hadmits.callers
  have hsupplied := hadmits.supplied
  rw [callers_append, List.forall_mem_append] at hcallers
  rw [suppliedNames_append, List.forall_mem_append] at hsupplied
  exact ⟨⟨hcallers.1, hsupplied.1⟩, ⟨hcallers.2, hsupplied.2⟩⟩

end Template

/-- From one scope a part takes the entries of a template to another scope. -/
structure Takes (stem : String) (places : Template) (before after : Scope) : Prop where
  count_eq : after.count = before.count + places.count
  bindings : before.bindings.Extends (places.entries stem before.count) after.bindings

namespace Takes

variable {stem : String} {first second : Template} {before middle after : Scope}

theorem nil (stem : String) (scope : Scope) : Takes stem [] scope scope :=
  ⟨rfl, Bindings.Extends.refl _⟩

theorem append (hfirst : Takes stem first before middle)
    (hsecond : Takes stem second middle after) : Takes stem (first ++ second) before after where
  count_eq := by
    rw [hsecond.count_eq, hfirst.count_eq, Template.count_append, Nat.add_assoc]
  bindings := by
    have hrest := hsecond.bindings
    rw [hfirst.count_eq] at hrest
    rw [Template.entries_append]
    exact hfirst.bindings.trans hrest

/-- What a scope has to agree with for two parts is split between them. -/
theorem agrees_of_append (hfirst : Takes stem first before middle)
    (hagrees : before.bindings.Agrees ((first ++ second).entries stem before.count)) :
    middle.bindings.Agrees (second.entries stem middle.count) := by
  rw [Template.entries_append] at hagrees
  rw [hfirst.count_eq]
  exact hagrees.of_append_right hfirst.bindings

end Takes

/-- Where one part has succeeded, wherever it began, another one succeeds in every scope that
    agrees with the values at some places, and adds just these. Its anonymous parameters are named
    by a stem that none of the names at the places has. -/
structure Replays {α : Type} (stem : String) (part part' : RenderM α) (places : Template) :
    Prop where
  replay : ∀ before a after, part before = .ok a after → places.Admits stem →
    ∀ before' : Scope, before'.bindings.Agrees (places.entries stem before'.count) →
      ∃ a' after', part' before' = .ok a' after' ∧ Takes stem places before' after'

namespace Replays

variable {α β : Type} {config : Config} {stem : String} {places first second : Template}

theorem pure (a a' : α) : Replays stem (pure a : RenderM α) (pure a') [] where
  replay := by
    intro before b after _ _ before' _
    exact ⟨a', before', rfl, .nil stem before'⟩

theorem error (error : QueryError) (part' : RenderM α) (places : Template) :
    Replays stem (throw error : RenderM α) part' places where
  replay := by
    intro before a after hthrow
    cases hthrow

theorem fail (component : String) (cause : Failure) (part' : RenderM α) (places : Template) :
    Replays stem (RenderM.fail component cause : RenderM α) part' places :=
  error _ part' places

theorem lift (check : Except QueryError α) :
    Replays stem (liftM check : RenderM α) (liftM check) [] where
  replay := by
    intro before a after hlift _ before' _
    obtain ⟨hcheck, _⟩ := RenderM.lift_eq_ok.mp hlift
    exact ⟨a, before', RenderM.lift_eq_ok.mpr ⟨hcheck, rfl⟩, .nil stem before'⟩

theorem bind {part part' : RenderM α} {next next' : α → RenderM β}
    (hpart : Replays stem part part' first)
    (hnext : ∀ a a', Replays stem (next a) (next' a') second) :
    Replays stem (part >>= next) (part' >>= next') (first ++ second) where
  replay := by
    intro before b after hbind hadmits before' hagrees
    obtain ⟨a, middle, hfirst, hsecond⟩ := RenderM.bind_eq_ok.mp hbind
    obtain ⟨hadmitsFirst, hadmitsSecond⟩ := hadmits.of_append
    have hagreesFirst : before'.bindings.Agrees (first.entries stem before'.count) := by
      rw [Template.entries_append] at hagrees
      exact hagrees.of_append_left
    obtain ⟨a', middle', hfirst', htakes⟩ :=
      hpart.replay _ _ _ hfirst hadmitsFirst before' hagreesFirst
    obtain ⟨b', after', hsecond', htakes'⟩ := (hnext a a').replay _ _ _ hsecond hadmitsSecond
      middle' (htakes.agrees_of_append hagrees)
    exact ⟨b', after', RenderM.bind_eq_ok.mpr ⟨a', middle', hfirst', hsecond'⟩,
      htakes.append htakes'⟩

/-- What follows a part may add nothing. -/
theorem followed {part part' : RenderM α} {next next' : α → RenderM β}
    (hpart : Replays stem part part' places) (hnext : ∀ a a', Replays stem (next a) (next' a') []) :
    Replays stem (part >>= next) (part' >>= next') places :=
  List.append_nil places ▸ hpart.bind hnext

theorem map {part part' : RenderM α} (hpart : Replays stem part part' places) (f f' : α → β) :
    Replays stem (do let a ← part; return f a) (do let a ← part'; return f' a) places :=
  hpart.followed fun a a' => pure (f a) (f' a')

/-- A check that passes once has to pass again. What follows it may rely on it. -/
theorem checks {check check' : Except QueryError α} {next next' : α → RenderM β}
    (hcheck : ∀ a, check = .ok a → places.Admits stem → check' = .ok a)
    (hnext : ∀ a, check = .ok a → Replays stem (next a) (next' a) places) :
    Replays stem ((liftM check : RenderM α) >>= next) ((liftM check' : RenderM α) >>= next')
      places where
  replay := by
    intro before b after hbind hadmits before' hagrees
    obtain ⟨a, middle, hlift, hrest⟩ := RenderM.bind_eq_ok.mp hbind
    obtain ⟨hok, _⟩ := RenderM.lift_eq_ok.mp hlift
    obtain ⟨b', after', hrest', htakes⟩ :=
      (hnext a hok).replay _ _ _ hrest hadmits before' hagrees
    have hlift' : (liftM check' : RenderM α) before' = .ok a before' :=
      RenderM.lift_eq_ok.mpr ⟨hcheck a hok hadmits, rfl⟩
    exact ⟨b', after', RenderM.bind_eq_ok.mpr ⟨a, before', hlift', hrest'⟩, htakes⟩

theorem check {check : Except QueryError α} {next next' : α → RenderM β}
    (hnext : ∀ a, check = .ok a → Replays stem (next a) (next' a) places) :
    Replays stem ((liftM check : RenderM α) >>= next) ((liftM check : RenderM α) >>= next')
      places :=
  checks (fun _ hok _ => hok) hnext

theorem unless_fail {c : Prop} [Decidable c] {component : String} {cause : Failure}
    {next next' : β → RenderM α} {part part' : RenderM α}
    (hpart : ¬ c → Replays stem part part' places) :
    Replays stem (if c then RenderM.fail component cause >>= next else part)
      (if c then RenderM.fail component cause >>= next' else part') places := by
  by_cases hc : c
  · rw [if_pos hc]
    exact fail component cause _ places
  · rw [if_neg hc, if_neg hc]
    exact hpart hc

theorem caller (component name : String) :
    Replays stem (liftM (Name.callerPlaceholder config component name) : RenderM String)
      (liftM (Name.callerPlaceholder (config.withStem stem) component name)) [.caller name] where
  replay := by
    intro before text after hlift hadmits before' _
    obtain ⟨hcaller, _⟩ := RenderM.lift_eq_ok.mp hlift
    have hcaller' :=
      Name.callerPlaceholder_withStem hcaller (hadmits.callers name List.mem_cons_self)
    exact ⟨text, before', RenderM.lift_eq_ok.mpr ⟨hcaller', rfl⟩, rfl, Bindings.Extends.refl _⟩

/-- Where a value can be bound to a name, it is. -/
theorem exists_bind {name : String} {v : Value} {before : Bindings}
    (hagrees : before.Agrees [(name, v)]) (count : Nat) :
    ∃ after, Scope.bind name v ⟨count, before⟩ = .ok () ⟨count, after⟩ ∧
      before.Extends [(name, v)] after := by
  obtain ⟨after, hbind⟩ := Bindings.exists_bind_of_agrees hagrees
  refine ⟨after, ?_, Bindings.extends_of_bind hbind⟩
  simp only [Scope.bind, hbind]

theorem bindAnonymous (v : Value) :
    Replays stem (Scope.bindAnonymous config v) (Scope.bindAnonymous (config.withStem stem) v)
      [.value v] where
  replay := by
    intro before text after _ _ before' hagrees
    obtain ⟨bindings, hbind, hextends⟩ := exists_bind hagrees (before'.count + 1)
    refine ⟨Name.placeholder (Name.anonymous stem (before'.count + 1)),
      ⟨before'.count + 1, bindings⟩, ?_, rfl, hextends⟩
    simp only [Scope.bindAnonymous, RenderM.bind_eq_ok, RenderM.pure_eq_ok]
    exact ⟨_, _, rfl, (), _, hbind, rfl, rfl⟩

theorem bindSemantic (aliasName column : String) (v : Value) :
    Replays stem (Scope.bindSemantic aliasName column v) (Scope.bindSemantic aliasName column v)
      [.shared aliasName column v] where
  replay := by
    intro before text after _ _ before' hagrees
    obtain ⟨bindings, hbind, hextends⟩ := exists_bind hagrees before'.count
    refine ⟨Name.placeholder (Name.semantic aliasName column), ⟨before'.count, bindings⟩, ?_, rfl,
      hextends⟩
    simp only [Scope.bindSemantic, RenderM.bind_eq_ok, RenderM.pure_eq_ok]
    exact ⟨(), _, hbind, trivial, rfl⟩

/-- Parameters that the caller names are added as they are. -/
theorem absorb (text : String) (bindings : Bindings) :
    Replays stem (Scope.absorb bindings) (Scope.absorb bindings) [.verbatim text bindings] where
  replay := by
    intro before _ after _ _ before' hagrees
    have hentries : Template.entries stem before'.count [.verbatim text bindings] =
        bindings.table := List.append_nil _
    rw [hentries] at hagrees
    obtain ⟨merged, hmerge⟩ := Bindings.exists_bindAll_of_agrees hagrees
    refine ⟨(), ⟨before'.count, merged⟩, Scope.absorb_eq_ok_iff.mpr ⟨merged, hmerge, rfl⟩, rfl, ?_⟩
    rw [hentries]
    exact Bindings.extends_of_merge hmerge

/-- A part with parameters of its own, which are then added to those around it, adds what it would
    add in place. -/
theorem isolated {part part' : RenderM String} {next next' : Fragment → RenderM β}
    (hpart : Replays stem part part' first)
    (hnext : ∀ fragment fragment', Replays stem (next fragment) (next' fragment') second) :
    Replays stem
      (do
        let fragment ← Scope.isolated part
        Scope.absorb fragment.bindings
        next fragment)
      (do
        let fragment ← Scope.isolated part'
        Scope.absorb fragment.bindings
        next' fragment) (first ++ second) where
  replay := by
    intro before b after hrender hadmits before' hagrees
    simp only [RenderM.bind_eq_ok] at hrender
    obtain ⟨fragment, _, hisolated, _, middle, _, hrest⟩ := hrender
    obtain ⟨inner, hinner, _, _⟩ := Scope.isolated_eq_ok hisolated
    obtain ⟨hadmitsFirst, hadmitsSecond⟩ := hadmits.of_append
    have hagreesFirst : before'.bindings.Agrees (first.entries stem before'.count) := by
      rw [Template.entries_append] at hagrees
      exact hagrees.of_append_left
    obtain ⟨text', inner', hinner', htakes⟩ := hpart.replay _ _ _ hinner hadmitsFirst
      ⟨before'.count, .empty⟩ ⟨hagreesFirst.pairwise, fun _ _ _ hbound => by cases hbound⟩
    obtain ⟨merged, hmerge⟩ :=
      Bindings.exists_bindAll_of_agrees (hagreesFirst.table htakes.bindings)
    have hmiddle : Takes stem first before' ⟨inner'.count, merged⟩ :=
      ⟨htakes.count_eq, .of_table htakes.bindings (Bindings.extends_of_merge hmerge)⟩
    obtain ⟨b', after', hrest', htakes'⟩ := (hnext fragment ⟨text', inner'.bindings⟩).replay _ _ _
      hrest hadmitsSecond ⟨inner'.count, merged⟩ (hmiddle.agrees_of_append hagrees)
    refine ⟨b', after', ?_, hmiddle.append htakes'⟩
    have habsorb : Scope.absorb inner'.bindings ⟨inner'.count, before'.bindings⟩ =
        .ok () ⟨inner'.count, merged⟩ := Scope.absorb_eq_ok_iff.mpr ⟨merged, hmerge, rfl⟩
    simp only [RenderM.bind_eq_ok]
    exact ⟨_, _, Scope.isolated_of_eq_ok hinner', (), _, habsorb, hrest'⟩

theorem isolated_text {part part' : RenderM String} (hpart : Replays stem part part' places) :
    Replays stem
      (do
        let fragment ← Scope.isolated part
        Scope.absorb fragment.bindings
        return fragment.text)
      (do
        let fragment ← Scope.isolated part'
        Scope.absorb fragment.bindings
        return fragment.text) places :=
  List.append_nil places ▸ hpart.isolated fun fragment fragment' =>
    pure fragment.text fragment'.text

/-- Text in the caller's own words that comes without values. -/
theorem raw (text : String) :
    Replays stem (Pure.pure text : RenderM String) (Pure.pure text) [.verbatim text .empty] where
  replay := by
    intro before s after _ _ before' _
    exact ⟨text, before', rfl, rfl, Bindings.Extends.refl _⟩

end Replays

end GraphQuery
