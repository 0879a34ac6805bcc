import GraphQuery.Proofs.Bindings.Agreement

namespace GraphQuery

namespace Bindings

/-- A table of parameters is determined by the value of each name. -/
theorem eq_of_get?_eq {first second : Bindings}
    (hget : ∀ name, first.get? name = second.get? name) : first = second := by
  obtain ⟨table, hfirst⟩ := first
  obtain ⟨table', hsecond⟩ := second
  obtain rfl : table = table' := hfirst.ext hsecond hget
  rfl

theorem get?_of_mem_table {bindings : Bindings} {entry : String × Value}
    (hmem : entry ∈ bindings.table) : bindings.get? entry.1 = some entry.2 :=
  Fields.get?_of_mem bindings.sorted.names_nodup hmem

/-- The entries of a table all have different names. -/
theorem table_pairwise (bindings : Bindings) :
    bindings.table.Pairwise fun a b => a.1 = b.1 → a.2.equals b.2 = true :=
  bindings.sorted.imp fun hlt heq => absurd heq (String.ne_of_lt hlt)

variable {before middle after other inner : Bindings} {entries first second : Fields Value}

namespace Extends

theorem unique (hafter : before.Extends entries after) (hother : before.Extends entries other) :
    after = other :=
  eq_of_get?_eq fun name => by rw [hafter, hother]

theorem of_empty (bindings : Bindings) : empty.Extends bindings.table bindings := by
  intro name
  rw [get?_empty, Option.none_or]
  rfl

/-- Entries that are collected in a table of their own are added as a whole. -/
theorem table (hextends : before.Extends entries after) (hinner : empty.Extends entries inner) :
    before.Extends inner.table after := by
  intro name
  have hget : inner.get? name = Fields.get? entries name := by
    rw [hinner, get?_empty, Option.none_or]
  rw [hextends, ← hget]
  rfl

end Extends

namespace Agrees

theorem of_append_left (hagrees : before.Agrees (first ++ second)) : before.Agrees first :=
  ⟨(List.pairwise_append.mp hagrees.pairwise).1,
    fun entry hmem => hagrees.bound entry (List.mem_append_left _ hmem)⟩

theorem of_append_right (hagrees : before.Agrees (first ++ second))
    (hextends : before.Extends first middle) : middle.Agrees second := by
  obtain ⟨_, hpairwise, hcross⟩ := List.pairwise_append.mp hagrees.pairwise
  refine ⟨hpairwise, fun entry hmem v hbound => ?_⟩
  rw [hextends] at hbound
  rcases Option.or_eq_some_iff.mp hbound with hbefore | ⟨_, hget⟩
  · exact hagrees.bound entry (List.mem_append_right _ hmem) v hbefore
  · exact hcross _ (Fields.mem_of_get? hget) entry hmem rfl

/-- What entries agree with, their table agrees with. -/
theorem table (hagrees : before.Agrees entries) (hinner : empty.Extends entries inner) :
    before.Agrees inner.table := by
  refine ⟨inner.table_pairwise, fun entry hmem v hbound => ?_⟩
  have hget := hinner entry.1
  rw [get?_of_mem_table hmem, get?_empty, Option.none_or] at hget
  exact hagrees.bound _ (Fields.mem_of_get? hget.symm) v hbound

end Agrees

/-- A value can be bound to a name that has none, or has one that is equal to it. -/
theorem exists_bind_of_agrees {name : String} {value : Value}
    (hagrees : before.Agrees [(name, value)]) : ∃ after, before.bind name value = .ok after := by
  unfold bind
  cases hbound : before.get? name with
  | none => exact ⟨_, rfl⟩
  | some existing =>
    have hequals := hagrees.bound _ (List.mem_singleton_self _) existing hbound
    exact ⟨before, if_pos hequals⟩

theorem exists_bindAll_of_agrees (hagrees : before.Agrees entries) :
    ∃ after, before.bindAll entries = (after, none) := by
  induction entries generalizing before with
  | nil => exact ⟨before, rfl⟩
  | cons entry entries ih =>
    have hboth : before.Agrees ([entry] ++ entries) := hagrees
    obtain ⟨middle, hfirst⟩ := exists_bind_of_agrees hboth.of_append_left
    obtain ⟨after, hrest⟩ := ih (hboth.of_append_right (extends_of_bind hfirst))
    exact ⟨after, by rw [bindAll, hfirst]; exact hrest⟩

/-- Entries are bound one after the other exactly if they agree, and the result is determined by
    the values of each name. -/
theorem bindAll_eq_ok_iff :
    before.bindAll entries = (after, none) ↔
      before.Agrees entries ∧ before.Extends entries after := by
  constructor
  · exact fun hbind => ⟨agrees_of_bindAll hbind, extends_of_bindAll hbind⟩
  · rintro ⟨hagrees, hextends⟩
    obtain ⟨other, hbind⟩ := exists_bindAll_of_agrees hagrees
    rw [hbind, hextends.unique (extends_of_bindAll hbind)]

theorem merge_eq_ok_iff {incoming : Bindings} :
    before.merge incoming = (after, none) ↔
      before.Agrees incoming.table ∧ before.Extends incoming.table after :=
  bindAll_eq_ok_iff

theorem merge_empty_left (bindings : Bindings) : empty.merge bindings = (bindings, none) :=
  merge_eq_ok_iff.mpr
    ⟨⟨bindings.table_pairwise, fun _ _ _ hbound => by cases hbound⟩, .of_empty bindings⟩

/-- Three tables can be merged from the left exactly if they can be merged from the right, and with
    the same result. -/
theorem merge_assoc {low mid high : Bindings} :
    (∃ both, low.merge mid = (both, none) ∧ both.merge high = (after, none)) ↔
      ∃ both, mid.merge high = (both, none) ∧ low.merge both = (after, none) := by
  simp only [merge_eq_ok_iff]
  constructor
  · rintro ⟨both, ⟨hmid, hboth⟩, hhigh, hafter⟩
    have hagrees := hmid.append hboth hhigh
    have hinner : mid.Agrees high.table :=
      ⟨high.table_pairwise, fun entry hmem v hbound =>
        (List.pairwise_append.mp hagrees.pairwise).2.2 _ (Fields.mem_of_get? hbound) entry hmem rfl⟩
    obtain ⟨tail, htail⟩ := exists_bindAll_of_agrees hinner
    have hextends := (Extends.of_empty mid).trans (extends_of_bindAll htail)
    exact ⟨tail, ⟨hinner, extends_of_bindAll htail⟩, hagrees.table hextends,
      (hboth.trans hafter).table hextends⟩
  · rintro ⟨tail, ⟨hinner, htail⟩, hagrees, hafter⟩
    have hempty : empty.Agrees mid.table := (merge_eq_ok_iff.mp (merge_empty_left mid)).1
    have hextends := (Extends.of_empty mid).trans htail
    have hall : low.Agrees (mid.table ++ high.table) :=
      .of_table (hempty.append (.of_empty mid) hinner) hextends hagrees
    obtain ⟨both, hboth⟩ := exists_bindAll_of_agrees hall.of_append_left
    have hfirst := extends_of_bindAll hboth
    have hsecond := hall.of_append_right hfirst
    obtain ⟨last, hlast⟩ := exists_bindAll_of_agrees hsecond
    have hsame : after = last :=
      (Extends.of_table hextends hafter).unique (hfirst.trans (extends_of_bindAll hlast))
    exact ⟨both, ⟨hall.of_append_left, hfirst⟩, hsecond, hsame ▸ extends_of_bindAll hlast⟩

section Single

variable {single : Bindings} {name : String} {v w : Value}

/-- A table of one parameter can take in another table unless that has a different value under the
    same name. -/
theorem merge_single (hsingle : empty.Extends [(name, v)] single)
    (hother : other.get? name = some w) :
    (v.equals w = true → ∃ merged, single.merge other = (merged, none)) ∧
      (v.equals w = false →
        ∃ merged, single.merge other = (merged, some (.conflict none name v w))) := by
  have hbound : ∀ {name' u}, single.get? name' = some u → name' = name ∧ u = v := by
    intro name' u hget
    rw [hsingle, get?_empty, Option.none_or, Fields.get?_cons] at hget
    split at hget
    · rename_i heq
      exact ⟨heq, (Option.some.inj hget).symm⟩
    · cases hget
  have hincoming : ∀ {u}, (name, u) ∈ other.table → u = w := fun hmem =>
    Option.some.inj ((get?_of_mem_table hmem).symm.trans hother)
  constructor
  · intro hequals
    refine exists_bindAll_of_agrees ⟨other.table_pairwise, fun entry hmem u hget => ?_⟩
    obtain ⟨hname, rfl⟩ := hbound hget
    obtain rfl := hincoming (hname ▸ hmem : (name, entry.2) ∈ other.table)
    exact hequals
  · intro hequals
    rcases hmerge : single.merge other with ⟨merged, _ | error⟩
    · have hagrees := agrees_of_bindAll hmerge
      have hget : single.get? name = some v := by
        rw [hsingle, get?_empty, Option.none_or, Fields.get?_cons, if_pos rfl]
      have htrue := hagrees.bound (name, w) (Fields.mem_of_get? hother) v hget
      rw [hequals] at htrue
      cases htrue
    · obtain ⟨name', existing, incoming, rfl, hget, hmem, _⟩ :=
        conflict_of_bindAll other.sorted.names_nodup hmerge
      obtain ⟨rfl, rfl⟩ := hbound hget
      rw [hincoming hmem]
      exact ⟨merged, rfl⟩

/-- The one parameter keeps its value, and those of the other table are added to it. -/
theorem get?_of_merge_single {merged : Bindings} {entries : Fields Value}
    (hsingle : empty.Extends [(name, v)] single) (hother : empty.Extends entries other)
    (hmerge : single.merge other = (merged, none)) (name' : String) :
    merged.get? name' = if name' = name then some v else Fields.get? entries name' := by
  have hextends := Extends.of_table hother (extends_of_merge hmerge)
  rw [hextends, hsingle, get?_empty, Option.none_or, Fields.get?_cons, Fields.get?_nil]
  by_cases heq : name' = name
  · rw [if_pos heq, if_pos heq, Option.some_or]
  · rw [if_neg heq, if_neg heq, Option.none_or]

/-- A table that differs from entries only in the value of one of them has the same names. -/
theorem names_perm_of_get? {bindings : Bindings} {entries : Fields Value}
    (hget : ∀ name', bindings.get? name' =
      if name' = name then some v else Fields.get? entries name')
    (hdistinct : entries.names.Nodup) (hshared : name ∈ entries.names) :
    bindings.table.names.Perm entries.names := by
  rw [List.perm_ext_iff_of_nodup bindings.sorted.names_nodup hdistinct]
  intro name'
  rw [← Fields.isSome_get?_iff, ← Fields.isSome_get?_iff]
  change (bindings.get? name').isSome = true ↔ _
  rw [hget]
  by_cases heq : name' = name
  · rw [if_pos heq, heq, Fields.isSome_get?_iff]
    exact iff_of_true rfl hshared
  · rw [if_neg heq]

end Single

end Bindings

end GraphQuery
