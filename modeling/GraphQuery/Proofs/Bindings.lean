import GraphQuery.Bindings
import GraphQuery.Proofs.Fields.Lookup

namespace GraphQuery

namespace Bindings

@[simp]
theorem get?_empty (name : String) : empty.get? name = none :=
  rfl

/-- What binding entries one after the other comes to when it succeeds: a name keeps the value it
    had, and a new one has the first value that is given for it. -/
def Extends (before : Bindings) (entries : Fields Value) (after : Bindings) : Prop :=
  ∀ name, after.get? name = (before.get? name).or (Fields.get? entries name)

namespace Extends

theorem refl (bindings : Bindings) : bindings.Extends [] bindings := by
  intro name
  simp

theorem trans {before middle after : Bindings} {first second : Fields Value}
    (hfirst : before.Extends first middle) (hsecond : middle.Extends second after) :
    before.Extends (first ++ second) after := by
  intro name
  rw [hsecond, hfirst, Fields.get?_append, Option.or_assoc]

/-- Entries that are collected in a table of their own and then added as a whole. -/
theorem of_table {before inner after : Bindings} {entries : Fields Value}
    (hinner : empty.Extends entries inner) (houter : before.Extends inner.table after) :
    before.Extends entries after := by
  intro name
  have htable : inner.get? name = Fields.get? entries name := by
    simpa using hinner name
  rw [houter, ← htable]
  rfl

end Extends

theorem extends_of_bind {before after : Bindings} {name : String} {value : Value}
    (hbind : before.bind name value = .ok after) : before.Extends [(name, value)] after := by
  intro other
  rw [Fields.get?_cons, Fields.get?_nil]
  unfold bind at hbind
  split at hbind
  · rename_i hfree
    cases hbind
    change (before.table.insert name value).get? other = _
    rw [Fields.get?_insert]
    by_cases heq : other = name
    · rw [if_pos heq, if_pos heq, heq, hfree, Option.none_or]
    · rw [if_neg heq, if_neg heq, Option.or_none]
      rfl
  · rename_i existing hbound
    split at hbind
    · cases hbind
      by_cases heq : other = name
      · rw [heq, hbound, Option.some_or]
      · rw [if_neg heq, Option.or_none]
    · cases hbind

theorem extends_of_bindAll {before after : Bindings} {entries : Fields Value}
    (hbind : before.bindAll entries = (after, none)) : before.Extends entries after := by
  induction entries generalizing before with
  | nil =>
    cases hbind
    exact Extends.refl _
  | cons entry entries ih =>
    obtain ⟨name, value⟩ := entry
    unfold bindAll at hbind
    split at hbind
    · rename_i bound hfirst
      exact (extends_of_bind hfirst).trans (ih hbind)
    · cases hbind

theorem extends_of_merge {before other after : Bindings}
    (hmerge : before.merge other = (after, none)) : before.Extends other.table after :=
  extends_of_bindAll hmerge

end Bindings

end GraphQuery
