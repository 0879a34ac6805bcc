import GraphQuery.Proofs.Bindings.Agreement
import GraphQuery.Proofs.Contract.Check
import GraphQuery.Proofs.Name.Parameter
import GraphQuery.Proofs.Scope

namespace GraphQuery

variable {stem : String} {before middle after : Scope} {entries first second : Fields Value}

namespace RenderM

variable {α β : Type}

theorem bind_eq_error {part : RenderM α} {next : α → RenderM β} {error : QueryError} :
    (part >>= next) before = .error error after ↔
      part before = .error error after ∨
        ∃ a middle, part before = .ok a middle ∧ next a middle = .error error after := by
  change EStateM.bind part next before = _ ↔ _
  unfold EStateM.bind
  cases part before <;> simp

theorem lift_eq_error {check : Except QueryError α} {error : QueryError}
    (hlift : (liftM check : RenderM α) before = .error error after) : check = .error error := by
  cases check with
  | ok => cases hlift
  | error => cases hlift; rfl

/-- At the top level an error is given the position of its clause. -/
theorem located_eq_error {position : Nat} {part : RenderM α} {error : QueryError} :
    located true position part before = .error error after ↔
      ∃ inner, part before = .error inner after ∧ inner.atClause position = error := by
  change EStateM.adaptExcept _ part before = _ ↔ _
  unfold EStateM.adaptExcept
  cases part before <;> simp [and_comm]

end RenderM

namespace Scope

theorem agrees_of_bind {name : String} {v : Value} (hbind : bind name v before = .ok () after) :
    before.bindings.Agrees [(name, v)] := by
  unfold bind at hbind
  split at hbind
  · rename_i hbound
    exact Bindings.agrees_of_bind hbound
  · cases hbind

theorem conflict_of_bind {name : String} {v : Value} {error : QueryError}
    (hbind : bind name v before = .error error after) :
    ∃ existing, error = .conflict none name existing v ∧
      before.bindings.get? name = some existing ∧ existing.equals v = false := by
  unfold bind at hbind
  split at hbind
  · cases hbind
  · rename_i hconflict
    cases hbind
    exact Bindings.conflict_of_bind hconflict

theorem agrees_of_absorb {bindings : Bindings} (habsorb : absorb bindings before = .ok () after) :
    before.bindings.Agrees bindings.table := by
  unfold absorb at habsorb
  split at habsorb
  · rename_i hmerge
    exact Bindings.agrees_of_bindAll hmerge
  · cases habsorb

theorem conflict_of_absorb {bindings : Bindings} {error : QueryError}
    (habsorb : absorb bindings before = .error error after) :
    ∃ name existing incoming, error = .conflict none name existing incoming ∧
      before.bindings.get? name = some existing ∧ (name, incoming) ∈ bindings.table ∧
      existing.equals incoming = false := by
  unfold absorb at habsorb
  split at habsorb
  · cases habsorb
  · rename_i hmerge
    cases habsorb
    exact Bindings.conflict_of_bindAll bindings.sorted.names_nodup hmerge

/-- A part with parameters of its own begins without any also where it fails. -/
theorem isolated_eq_error {part : RenderM String} {error : QueryError}
    (hisolated : isolated part before = .error error after) :
    ∃ inner, part ⟨before.count, .empty⟩ = .error error inner := by
  simp only [isolated, RenderM.bind_eq_error] at hisolated
  rcases hisolated with hget | ⟨_, _, hget, hmodify | ⟨_, _, hclear, hpart | ⟨_, _, _, hrest⟩⟩⟩
  · cases hget
  · cases hmodify
  · cases hget
    cases hclear
    exact ⟨after, hpart⟩
  · rcases hrest with hget | ⟨_, _, _, hmodify | ⟨_, _, _, hpure⟩⟩
    · cases hget
    · cases hmodify
    · cases hpure

end Scope

/-- The entries of a list whose name is not anonymous. -/
def namedEntries (stem : String) (entries : Fields Value) : Fields Value :=
  entries.filter fun entry => !Name.isAnonymous stem entry.1

theorem mem_namedEntries {name : String} {v : Value} :
    (name, v) ∈ namedEntries stem entries ↔
      (name, v) ∈ entries ∧ Name.isAnonymous stem name = false := by
  simp [namedEntries]

theorem namedEntries_append (stem : String) (first second : Fields Value) :
    namedEntries stem (first ++ second) = namedEntries stem first ++ namedEntries stem second :=
  List.filter_append ..

theorem namedEntries_eq_self (hnamed : ∀ entry ∈ entries, Name.isAnonymous stem entry.1 = false) :
    namedEntries stem entries = entries :=
  List.filter_eq_self.mpr fun entry hmem => by rw [hnamed entry hmem]; rfl

/-- Every anonymous name that is bound has been handed out. -/
def Scope.Numbered (stem : String) (scope : Scope) : Prop :=
  ∀ name v, scope.bindings.get? name = some v → Name.isAnonymous stem name = true →
    ∃ k ≤ scope.count, name = Name.anonymous stem k

theorem Scope.numbered_empty (stem : String) (count : Nat) :
    Scope.Numbered stem ⟨count, .empty⟩ := by
  intro name v hget
  cases hget

/-- The name that is handed out next is not bound yet. -/
theorem Scope.Numbered.get?_next {stem : String} (hnumbered : before.Numbered stem) :
    before.bindings.get? (Name.anonymous stem (before.count + 1)) = none := by
  cases hbound : before.bindings.get? (Name.anonymous stem (before.count + 1)) with
  | none => rfl
  | some v =>
    obtain ⟨k, hk, hname⟩ := hnumbered _ v hbound (Name.isAnonymous_anonymous ..)
    have hnumber := Name.anonymous_injective hname
    omega

/-- Entries may be bound in addition if those that have an anonymous name have one that has been
    handed out. -/
theorem Scope.Numbered.of_extends {stem : String} (hnumbered : before.Numbered stem)
    (hcount : before.count ≤ after.count)
    (hextends : before.bindings.Extends entries after.bindings)
    (hentries : ∀ entry ∈ entries, Name.isAnonymous stem entry.1 = true →
      ∃ k ≤ after.count, entry.1 = Name.anonymous stem k) : after.Numbered stem := by
  intro name v hget hanonymous
  rw [hextends] at hget
  rcases Option.or_eq_some_iff.mp hget with hget | ⟨_, hget⟩
  · obtain ⟨k, hk, hname⟩ := hnumbered name v hget hanonymous
    exact ⟨k, hk.trans hcount, hname⟩
  · exact hentries _ (Fields.mem_of_get? hget) hanonymous

/-- A part of a statement binds entries one after the other. Those that have an anonymous name have
    one that was handed out for them. -/
structure Adds (stem : String) (before : Scope) (entries : Fields Value) (after : Scope) :
    Prop where
  count_le : before.count ≤ after.count
  bindings : before.bindings.Extends entries after.bindings
  agrees : before.bindings.Agrees entries
  numbered : ∀ entry ∈ entries, Name.isAnonymous stem entry.1 = true →
    ∃ k, before.count < k ∧ k ≤ after.count ∧ entry.1 = Name.anonymous stem k

namespace Adds

theorem nil (stem : String) (scope : Scope) : Adds stem scope [] scope where
  count_le := Nat.le_refl _
  bindings := Bindings.Extends.refl _
  agrees := Bindings.Agrees.nil _
  numbered := fun _ hmem => by cases hmem

/-- Entries that all have names of their own take no anonymous one. -/
theorem of_named (hnamed : ∀ entry ∈ entries, Name.isAnonymous stem entry.1 = false)
    (hcount : before.count ≤ after.count)
    (hextends : before.bindings.Extends entries after.bindings)
    (hagrees : before.bindings.Agrees entries) : Adds stem before entries after := by
  refine ⟨hcount, hextends, hagrees, fun entry hmem hanonymous => ?_⟩
  rw [hnamed entry hmem] at hanonymous
  cases hanonymous

theorem append (hfirst : Adds stem before first middle) (hsecond : Adds stem middle second after) :
    Adds stem before (first ++ second) after where
  count_le := hfirst.count_le.trans hsecond.count_le
  bindings := hfirst.bindings.trans hsecond.bindings
  agrees := hfirst.agrees.append hfirst.bindings hsecond.agrees
  numbered := by
    intro entry hmem hanonymous
    have hfirstLe := hfirst.count_le
    have hsecondLe := hsecond.count_le
    rcases List.mem_append.mp hmem with hmem | hmem
    · obtain ⟨k, hlow, hhigh, hname⟩ := hfirst.numbered entry hmem hanonymous
      exact ⟨k, hlow, by omega, hname⟩
    · obtain ⟨k, hlow, hhigh, hname⟩ := hsecond.numbered entry hmem hanonymous
      exact ⟨k, by omega, hhigh, hname⟩

theorem numbered_after (hadds : Adds stem before entries after) (hbefore : before.Numbered stem) :
    after.Numbered stem := by
  refine hbefore.of_extends hadds.count_le hadds.bindings fun entry hmem hanonymous => ?_
  obtain ⟨k, _, hk, hname⟩ := hadds.numbered entry hmem hanonymous
  exact ⟨k, hk, hname⟩

/-- A part with parameters of its own, which are then added to those around it. -/
theorem isolated {inner : Scope} (hinner : Adds stem ⟨before.count, .empty⟩ entries inner)
    (habsorb : Scope.absorb inner.bindings ⟨inner.count, before.bindings⟩ = .ok () after) :
    Adds stem before entries after := by
  obtain ⟨hcount, hextends⟩ := Scope.absorb_eq_ok habsorb
  have hagrees := Scope.agrees_of_absorb habsorb
  refine ⟨?_, .of_table hinner.bindings hextends,
    .of_table hinner.agrees hinner.bindings hagrees, ?_⟩
  · rw [hcount]
    exact hinner.count_le
  · rw [hcount]
    exact hinner.numbered

end Adds

/-- Two values are in conflict over a name: the one that is to be bound is among those that a part
    names, and so is the one that is bound, unless it was bound before. -/
structure Clash (stem : String) (before : Scope) (named : Fields Value) (name : String)
    (existing incoming : Value) : Prop where
  isAnonymous_eq : Name.isAnonymous stem name = false
  equals_eq : existing.equals incoming = false
  incoming_mem : (name, incoming) ∈ named
  existing_mem : before.bindings.get? name = some existing ∨ (name, existing) ∈ named

namespace Clash

variable {named more : Fields Value} {name : String} {existing incoming : Value}

theorem append_left (hclash : Clash stem before named name existing incoming)
    (more : Fields Value) : Clash stem before (named ++ more) name existing incoming :=
  ⟨hclash.isAnonymous_eq, hclash.equals_eq, List.mem_append_left _ hclash.incoming_mem,
    hclash.existing_mem.imp_right (List.mem_append_left _)⟩

/-- What is bound by the time of a conflict is either bound before or named by what came first. -/
theorem append_right (hadds : Adds stem before entries middle)
    (hclash : Clash stem middle more name existing incoming) :
    Clash stem before (namedEntries stem entries ++ more) name existing incoming := by
  refine ⟨hclash.isAnonymous_eq, hclash.equals_eq, List.mem_append_right _ hclash.incoming_mem, ?_⟩
  rcases hclash.existing_mem with hbound | hmem
  · rw [hadds.bindings] at hbound
    rcases Option.or_eq_some_iff.mp hbound with hbound | ⟨_, hget⟩
    · exact .inl hbound
    · have hmem := mem_namedEntries.mpr ⟨Fields.mem_of_get? hget, hclash.isAnonymous_eq⟩
      exact .inr (List.mem_append_left _ hmem)
  · exact .inr (List.mem_append_right _ hmem)

/-- Where nothing was bound before, both values are among those that a part names. -/
theorem of_empty {count : Nat} (hclash : Clash stem ⟨count, .empty⟩ named name existing incoming) :
    Clash stem before named name existing incoming :=
  ⟨hclash.isAnonymous_eq, hclash.equals_eq, hclash.incoming_mem,
    hclash.existing_mem.imp_left fun hbound => by cases hbound⟩

end Clash

/-- The parameters of a part that was written on its own clash with those around it only over names
    that are not anonymous: the anonymous ones of the part were handed out later. -/
theorem Adds.clash_of_absorb {inner : Scope} {error : QueryError}
    (hinner : Adds stem ⟨before.count, .empty⟩ entries inner) (hnumbered : before.Numbered stem)
    (habsorb : Scope.absorb inner.bindings ⟨inner.count, before.bindings⟩ = .error error after) :
    ∃ name existing incoming, error = .conflict none name existing incoming ∧
      Clash stem before (namedEntries stem entries) name existing incoming := by
  obtain ⟨name, existing, incoming, rfl, hbound, htable, hequals⟩ :=
    Scope.conflict_of_absorb habsorb
  have hmem : (name, incoming) ∈ entries := by
    have hextends := hinner.bindings name
    have hget : inner.bindings.get? name = some incoming :=
      Fields.get?_of_mem inner.bindings.sorted.names_nodup htable
    rw [hget, Bindings.get?_empty, Option.none_or] at hextends
    exact Fields.mem_of_get? hextends.symm
  have hnamed : Name.isAnonymous stem name = false := by
    by_contra hanonymous
    rw [Bool.not_eq_false] at hanonymous
    obtain ⟨k, hlow, _, hname⟩ := hinner.numbered _ hmem hanonymous
    obtain ⟨l, hle, hother⟩ := hnumbered name existing hbound hanonymous
    have hnumber := Name.anonymous_injective (hname.symm.trans hother)
    change before.count < k at hlow
    omega
  exact ⟨name, existing, incoming, rfl, hnamed, hequals, mem_namedEntries.mpr ⟨hmem, hnamed⟩,
    .inl hbound⟩

/-- What a part of a statement does with names that are not anonymous: where it succeeds it binds
    the named entries, in order, and where it fails with a conflict this is a clash among them or
    with what was bound before. A conflict does not know its clause yet. -/
structure Binds {α : Type} (config : Config) (part : RenderM α) (named : Fields Value) : Prop where
  ok : ∀ before a after, part before = .ok a after →
    ∃ entries, Adds config.parameterStem before entries after ∧
      namedEntries config.parameterStem entries = named
  conflict : ∀ before error after, before.Numbered config.parameterStem →
    part before = .error error after → error.isConflict = true →
      ∃ name existing incoming, error = .conflict none name existing incoming ∧
        Clash config.parameterStem before named name existing incoming

namespace Binds

variable {α β : Type} {config : Config} {named more : Fields Value}

theorem pure (a : α) : Binds config (pure a : RenderM α) [] where
  ok := by
    intro before b after hpure
    obtain ⟨rfl, rfl⟩ := RenderM.pure_eq_ok.mp hpure
    exact ⟨[], Adds.nil _ _, rfl⟩
  conflict := by
    intro before error after _ hpure
    cases hpure

theorem lift {check : Except QueryError α} {p : Prop} (hcheck : Guarded check p) :
    Binds config (liftM check : RenderM α) [] where
  ok := by
    intro before a after hlift
    obtain ⟨_, rfl⟩ := RenderM.lift_eq_ok.mp hlift
    exact ⟨[], Adds.nil _ _, rfl⟩
  conflict := by
    intro before error after _ hlift hconflict
    rw [hcheck.isConflict_eq error (RenderM.lift_eq_error hlift)] at hconflict
    cases hconflict

/-- A part that fails in any case, but not with a conflict, may be said to bind whatever is asked
    for. -/
theorem error {error : QueryError} (herror : error.isConflict = false) (named : Fields Value) :
    Binds config (throw error : RenderM α) named where
  ok := by
    intro before a after hthrow
    cases hthrow
  conflict := by
    intro before other after _ hthrow hconflict
    cases hthrow
    rw [herror] at hconflict
    cases hconflict

theorem fail (component : String) (cause : Failure) (named : Fields Value) :
    Binds config (RenderM.fail component cause : RenderM α) named :=
  error rfl named

theorem bind {part : RenderM α} {next : α → RenderM β} (hpart : Binds config part named)
    (hnext : ∀ a, Binds config (next a) more) : Binds config (part >>= next) (named ++ more) where
  ok := by
    intro before b after hbind
    obtain ⟨a, middle, hfirst, hsecond⟩ := RenderM.bind_eq_ok.mp hbind
    obtain ⟨entries, hadds, rfl⟩ := hpart.ok _ _ _ hfirst
    obtain ⟨others, hothers, rfl⟩ := (hnext a).ok _ _ _ hsecond
    exact ⟨entries ++ others, hadds.append hothers, namedEntries_append ..⟩
  conflict := by
    intro before error after hnumbered hbind hconflict
    rcases RenderM.bind_eq_error.mp hbind with hfirst | ⟨a, middle, hfirst, hsecond⟩
    · obtain ⟨name, existing, incoming, herror, hclash⟩ :=
        hpart.conflict _ _ _ hnumbered hfirst hconflict
      exact ⟨name, existing, incoming, herror, hclash.append_left more⟩
    · obtain ⟨entries, hadds, rfl⟩ := hpart.ok _ _ _ hfirst
      obtain ⟨name, existing, incoming, herror, hclash⟩ :=
        (hnext a).conflict _ _ _ (hadds.numbered_after hnumbered) hsecond hconflict
      exact ⟨name, existing, incoming, herror, hclash.append_right hadds⟩

/-- What follows a part may bind nothing. -/
theorem followed {part : RenderM α} {next : α → RenderM β} (hpart : Binds config part named)
    (hnext : ∀ a, Binds config (next a) []) : Binds config (part >>= next) named :=
  List.append_nil named ▸ hpart.bind hnext

theorem map {part : RenderM α} (hpart : Binds config part named) (f : α → β) :
    Binds config (do let a ← part; return f a) named :=
  hpart.followed fun a => pure (f a)

/-- What follows a check may rely on it. -/
theorem check {check : Except QueryError α} {p : Prop} (hcheck : Guarded check p)
    {next : α → RenderM β} (hnext : ∀ a, check = .ok a → Binds config (next a) named) :
    Binds config ((liftM check : RenderM α) >>= next) named := by
  cases check with
  | ok a => exact hnext a rfl
  | error => exact error (hcheck.isConflict_eq _ rfl) named

theorem unless_fail {c : Prop} [Decidable c] {component : String} {cause : Failure}
    {next : β → RenderM α} {part : RenderM α} (hpart : ¬ c → Binds config part named) :
    Binds config (if c then RenderM.fail component cause >>= next else part) named := by
  by_cases hc : c
  · rw [if_pos hc]
    exact fail component cause named
  · rw [if_neg hc]
    exact hpart hc

theorem bindAnonymous (v : Value) :
    Binds config (Scope.bindAnonymous config v) [] where
  ok := by
    intro before text after hbind
    simp only [Scope.bindAnonymous, RenderM.bind_eq_ok, RenderM.pure_eq_ok] at hbind
    obtain ⟨name, reserved, hreserve, _, bound, hbound, rfl, rfl⟩ := hbind
    cases hreserve
    obtain ⟨hcount, hextends⟩ := Scope.bind_eq_ok hbound
    have hagrees := Scope.agrees_of_bind hbound
    refine ⟨_, ⟨?_, hextends, hagrees, ?_⟩, ?_⟩
    · rw [hcount]
      exact Nat.le_succ _
    · intro entry hmem _
      obtain rfl := List.mem_singleton.mp hmem
      exact ⟨before.count + 1, Nat.lt_succ_self _, hcount.ge, rfl⟩
    · simp [namedEntries, Name.isAnonymous_anonymous]
  conflict := by
    intro before error after hnumbered hbind hconflict
    simp only [Scope.bindAnonymous, RenderM.bind_eq_error] at hbind
    rcases hbind with hreserve | ⟨_, reserved, hreserve, hbound | ⟨_, _, _, hpure⟩⟩
    · cases hreserve
    · cases hreserve
      obtain ⟨existing, _, hget, _⟩ := Scope.conflict_of_bind hbound
      rw [hnumbered.get?_next] at hget
      cases hget
    · cases hpure

theorem bindSemantic (hstem : Name.IsStem config.parameterStem) (aliasName column : String)
    (v : Value) :
    Binds config (Scope.bindSemantic aliasName column v) [(Name.semantic aliasName column, v)] where
  ok := by
    intro before text after hbind
    simp only [Scope.bindSemantic, RenderM.bind_eq_ok, RenderM.pure_eq_ok] at hbind
    obtain ⟨_, bound, hbound, rfl, rfl⟩ := hbind
    obtain ⟨hcount, hextends⟩ := Scope.bind_eq_ok hbound
    have hnamed : ∀ entry ∈ [(Name.semantic aliasName column, v)],
        Name.isAnonymous config.parameterStem entry.1 = false := by
      intro entry hmem
      obtain rfl := List.mem_singleton.mp hmem
      exact Name.isAnonymous_semantic hstem aliasName column
    exact ⟨_, .of_named hnamed hcount.ge hextends (Scope.agrees_of_bind hbound),
      namedEntries_eq_self hnamed⟩
  conflict := by
    intro before error after _ hbind _
    simp only [Scope.bindSemantic, RenderM.bind_eq_error] at hbind
    rcases hbind with hbound | ⟨_, _, _, hpure⟩
    · obtain ⟨existing, rfl, hget, hequals⟩ := Scope.conflict_of_bind hbound
      exact ⟨_, existing, v, rfl, Name.isAnonymous_semantic hstem aliasName column, hequals,
        List.mem_singleton_self _, .inl hget⟩
    · cases hpure

/-- Parameters that the caller names are added as they are. -/
theorem absorb {bindings : Bindings}
    (hnamed : ∀ name ∈ bindings.table.names, Name.isAnonymous config.parameterStem name = false) :
    Binds config (Scope.absorb bindings) bindings.table where
  ok := by
    intro before _ after habsorb
    obtain ⟨hcount, hextends⟩ := Scope.absorb_eq_ok habsorb
    have hentries : ∀ entry ∈ bindings.table,
        Name.isAnonymous config.parameterStem entry.1 = false :=
      fun entry hmem => hnamed entry.1 (List.mem_map.mpr ⟨entry, hmem, rfl⟩)
    exact ⟨_, .of_named hentries hcount.ge hextends (Scope.agrees_of_absorb habsorb),
      namedEntries_eq_self hentries⟩
  conflict := by
    intro before error after _ habsorb _
    obtain ⟨name, existing, incoming, rfl, hget, hmem, hequals⟩ := Scope.conflict_of_absorb habsorb
    exact ⟨name, existing, incoming, rfl, hnamed name (List.mem_map.mpr ⟨_, hmem, rfl⟩), hequals,
      hmem, .inl hget⟩

/-- A part with parameters of its own, which are then added to those around it, binds what it would
    bind in place. -/
theorem isolated {part : RenderM String} {next : Fragment → RenderM β}
    (hpart : Binds config part named) (hnext : ∀ fragment, Binds config (next fragment) more) :
    Binds config (do
      let fragment ← Scope.isolated part
      Scope.absorb fragment.bindings
      next fragment) (named ++ more) := by
  have hadds : ∀ {before middle after : Scope} {fragment : Fragment},
      Scope.isolated part before = .ok fragment middle →
      Scope.absorb fragment.bindings middle = .ok () after →
      ∃ entries, Adds config.parameterStem before entries after ∧
        namedEntries config.parameterStem entries = named := by
    intro before middle after fragment hisolated habsorb
    obtain ⟨inner, hinner, hbindings, rfl⟩ := Scope.isolated_eq_ok hisolated
    obtain ⟨entries, hentries, hnamed⟩ := hpart.ok _ _ _ hinner
    rw [hbindings] at habsorb
    exact ⟨entries, hentries.isolated habsorb, hnamed⟩
  constructor
  · intro before b after hrender
    simp only [RenderM.bind_eq_ok] at hrender
    obtain ⟨fragment, _, hisolated, _, middle, habsorb, hrest⟩ := hrender
    obtain ⟨entries, hentries, rfl⟩ := hadds hisolated habsorb
    obtain ⟨others, hothers, rfl⟩ := (hnext fragment).ok _ _ _ hrest
    exact ⟨entries ++ others, hentries.append hothers, namedEntries_append ..⟩
  · intro before error after hnumbered hrender hconflict
    simp only [RenderM.bind_eq_error] at hrender
    rcases hrender with hisolated | ⟨fragment, _, hisolated, habsorb | ⟨_, middle, habsorb, hrest⟩⟩
    · obtain ⟨inner, hinner⟩ := Scope.isolated_eq_error hisolated
      obtain ⟨name, existing, incoming, rfl, hclash⟩ :=
        hpart.conflict _ _ _ (Scope.numbered_empty _ _) hinner hconflict
      exact ⟨name, existing, incoming, rfl, hclash.of_empty.append_left more⟩
    · obtain ⟨inner, hinner, hbindings, rfl⟩ := Scope.isolated_eq_ok hisolated
      obtain ⟨entries, hentries, rfl⟩ := hpart.ok _ _ _ hinner
      rw [hbindings] at habsorb
      obtain ⟨name, existing, incoming, rfl, hclash⟩ := hentries.clash_of_absorb hnumbered habsorb
      exact ⟨name, existing, incoming, rfl, hclash.append_left more⟩
    · obtain ⟨entries, hentries, rfl⟩ := hadds hisolated habsorb
      obtain ⟨name, existing, incoming, herror, hclash⟩ :=
        (hnext fragment).conflict _ _ _ (hentries.numbered_after hnumbered) hrest hconflict
      exact ⟨name, existing, incoming, herror, hclash.append_right hentries⟩

theorem isolated_text {part : RenderM String} (hpart : Binds config part named) :
    Binds config (do
      let fragment ← Scope.isolated part
      Scope.absorb fragment.bindings
      return fragment.text) named :=
  List.append_nil named ▸ hpart.isolated fun fragment => pure fragment.text

end Binds

end GraphQuery
