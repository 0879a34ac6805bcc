import GraphQuery.Proofs.Bindings
import GraphQuery.Proofs.Value.Equality

namespace GraphQuery

namespace Bindings

/-- Entries can be bound one after the other: of one name there are only equal values, and they are
    equal to the one that the name has already. -/
structure Agrees (before : Bindings) (entries : Fields Value) : Prop where
  pairwise : entries.Pairwise fun a b => a.1 = b.1 → a.2.equals b.2 = true
  bound : ∀ entry ∈ entries, ∀ v, before.get? entry.1 = some v → v.equals entry.2 = true

namespace Agrees

theorem nil (bindings : Bindings) : bindings.Agrees [] :=
  ⟨List.Pairwise.nil, fun _ hmem => by cases hmem⟩

/-- Two values that are equal to a third one are equal to each other. -/
theorem equals_of_equals {v a b : Value} (hfirst : v.equals a = true)
    (hsecond : v.equals b = true) : a.equals b = true :=
  Value.equals_trans (Value.equals_comm v a ▸ hfirst) hsecond

/-- The value that a name gets from entries is, or is equal to, each one that they have for it. -/
theorem eq_or_equals_of_get? {entries : Fields Value}
    (hpairwise : entries.Pairwise fun a b => a.1 = b.1 → a.2.equals b.2 = true)
    {entry : String × Value} (hmem : entry ∈ entries) :
    ∃ v, entries.get? entry.1 = some v ∧ (v = entry.2 ∨ v.equals entry.2 = true) := by
  induction hpairwise with
  | nil => cases hmem
  | @cons first rest hfirst _ ih =>
    rw [Fields.get?_cons]
    by_cases heq : entry.1 = first.1
    · rw [if_pos heq]
      rcases List.mem_cons.mp hmem with rfl | hmem
      · exact ⟨_, rfl, .inl rfl⟩
      · exact ⟨_, rfl, .inr (hfirst entry hmem heq.symm)⟩
    · rw [if_neg heq]
      exact ih ((List.mem_cons.mp hmem).resolve_left fun hentry => heq (congrArg Prod.fst hentry))

theorem append {before middle : Bindings} {first second : Fields Value}
    (hfirst : before.Agrees first) (hextends : before.Extends first middle)
    (hsecond : middle.Agrees second) : before.Agrees (first ++ second) := by
  constructor
  · refine List.pairwise_append.mpr ⟨hfirst.pairwise, hsecond.pairwise, fun a ha b hb hname => ?_⟩
    -- Both are equal to the value that is bound after the first entries.
    have hmiddle := hextends a.1
    cases hbefore : before.get? a.1 with
    | some v =>
      rw [hbefore, Option.some_or] at hmiddle
      exact equals_of_equals (hfirst.bound a ha v hbefore) (hsecond.bound b hb v (hname ▸ hmiddle))
    | none =>
      obtain ⟨v, hget, hv⟩ := eq_or_equals_of_get? hfirst.pairwise ha
      rw [hbefore, Option.none_or, hget] at hmiddle
      have hequals := hsecond.bound b hb v (hname ▸ hmiddle)
      rcases hv with rfl | hv
      · exact hequals
      · exact equals_of_equals hv hequals
  · intro entry hmem v hbefore
    rcases List.mem_append.mp hmem with hmem | hmem
    · exact hfirst.bound entry hmem v hbefore
    · refine hsecond.bound entry hmem v ?_
      rw [hextends, hbefore, Option.some_or]

/-- Entries that are collected in a table of their own agree with what the table agrees with. -/
theorem of_table {before inner : Bindings} {entries : Fields Value}
    (hinner : empty.Agrees entries) (hextends : empty.Extends entries inner)
    (hbefore : before.Agrees inner.table) : before.Agrees entries := by
  refine ⟨hinner.pairwise, fun entry hmem v hbound => ?_⟩
  obtain ⟨w, hget, hw⟩ := eq_or_equals_of_get? hinner.pairwise hmem
  have htable : inner.table.get? entry.1 = some w := by
    have hinner := hextends entry.1
    rwa [get?_empty, Option.none_or, hget] at hinner
  have hequals := hbefore.bound _ (Fields.mem_of_get? htable) v hbound
  rcases hw with rfl | hw
  · exact hequals
  · exact Value.equals_trans hequals hw

end Agrees

theorem agrees_of_bind {before after : Bindings} {name : String} {value : Value}
    (hbind : before.bind name value = .ok after) : before.Agrees [(name, value)] := by
  refine ⟨List.pairwise_singleton _ _, fun entry hmem v hbound => ?_⟩
  obtain rfl := List.mem_singleton.mp hmem
  unfold bind at hbind
  simp only [hbound] at hbind
  by_contra hequals
  rw [if_neg hequals] at hbind
  cases hbind

theorem agrees_of_bindAll {before after : Bindings} {entries : Fields Value}
    (hbind : before.bindAll entries = (after, none)) : before.Agrees entries := by
  induction entries generalizing before with
  | nil => exact Agrees.nil before
  | cons entry entries ih =>
    obtain ⟨name, value⟩ := entry
    unfold bindAll at hbind
    split at hbind
    · rename_i bound hfirst
      exact (agrees_of_bind hfirst).append (extends_of_bind hfirst) (ih hbind)
    · cases hbind

/-- A conflict is between the value that a name has and the one it is to be bound to. -/
theorem conflict_of_bind {before : Bindings} {name : String} {value : Value} {error : QueryError}
    (hbind : before.bind name value = .error error) :
    ∃ existing, error = .conflict none name existing value ∧ before.get? name = some existing ∧
      existing.equals value = false := by
  unfold bind at hbind
  split at hbind
  · cases hbind
  · rename_i existing hbound
    split at hbind
    · cases hbind
    · rename_i hequals
      cases hbind
      exact ⟨existing, rfl, hbound, by simpa using hequals⟩

/-- Where entries have different names, a conflict is between the value of one of them and the one
    that its name had before. -/
theorem conflict_of_bindAll {before after : Bindings} {entries : Fields Value} {error : QueryError}
    (hdistinct : entries.names.Nodup) (hbind : before.bindAll entries = (after, some error)) :
    ∃ name existing incoming, error = .conflict none name existing incoming ∧
      before.get? name = some existing ∧ (name, incoming) ∈ entries ∧
      existing.equals incoming = false := by
  induction entries generalizing before with
  | nil => cases hbind
  | cons entry entries ih =>
    obtain ⟨name, value⟩ := entry
    obtain ⟨hnew, hdistinct⟩ := List.nodup_cons.mp hdistinct
    unfold bindAll at hbind
    split at hbind
    · rename_i bound hfirst
      obtain ⟨other, existing, incoming, rfl, hbound, hmem, hequals⟩ := ih hdistinct hbind
      have hne : other ≠ name := by
        rintro rfl
        exact hnew (List.mem_map.mpr ⟨_, hmem, rfl⟩)
      have hbefore : before.get? other = some existing := by
        have hextends := extends_of_bind hfirst other
        rwa [hbound, Fields.get?_cons, if_neg hne, Fields.get?_nil, Option.or_none, eq_comm]
          at hextends
      exact ⟨other, existing, incoming, rfl, hbefore, List.mem_cons_of_mem _ hmem, hequals⟩
    · rename_i conflict hfirst
      cases hbind
      obtain ⟨existing, rfl, hbound, hequals⟩ := conflict_of_bind hfirst
      exact ⟨name, existing, value, rfl, hbound, List.mem_cons_self, hequals⟩

end Bindings

end GraphQuery
