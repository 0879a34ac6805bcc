import GraphQuery.Proofs.Fields.Lookup
import GraphQuery.Proofs.Template

namespace GraphQuery

namespace Template

variable {stem : String}

@[simp]
theorem hasVerbatim_cons (piece : Piece) (template : Template) :
    hasVerbatim (piece :: template) = (piece.isVerbatim || template.hasVerbatim) :=
  rfl

/-- Without text in the caller's own words, the parameters that stand in a statement are those that
    it is written with and those that the caller binds. -/
theorem mem_names_iff {template : Template} (hverbatim : template.hasVerbatim = false) (n : Nat)
    {name : String} :
    name ∈ template.names stem n ↔
      name ∈ Fields.names (template.entries stem n) ∨ name ∈ template.callers := by
  induction template generalizing n with
  | nil => simp [names, entries, callers, numbered, Fields.names]
  | cons piece template ih =>
    rw [hasVerbatim_cons, Bool.or_eq_false_iff] at hverbatim
    rw [names_cons, entries_cons, List.mem_append, ih hverbatim.2]
    cases piece with
    | verbatim => cases hverbatim.1
    | text => simp [Piece.name?, Piece.entries, callers, Piece.caller?]
    | value => simp [Piece.name?, Piece.entries, callers, Piece.caller?, Fields.names, or_assoc]
    | shared => simp [Piece.name?, Piece.entries, callers, Piece.caller?, Fields.names, or_assoc]
    | caller => simp [Piece.name?, Piece.entries, callers, Piece.caller?, or_left_comm]

namespace Sound

variable {template : Template}

/-- Of the names in a statement, the anonymous ones are numbered without gaps in the order of the
    text. -/
theorem filter_names (hstem : Name.IsStem stem) (hsound : Sound stem template)
    (hverbatim : template.hasVerbatim = false) (n : Nat) :
    (template.names stem n).filter (Name.isAnonymous stem) =
      (List.range' (n + 1) template.count).map (Name.anonymous stem) := by
  induction hsound generalizing n with
  | nil => rfl
  | verbatim => simp [Piece.isVerbatim] at hverbatim
  | text _ _ ih =>
    rw [names_cons]
    exact ih hverbatim n
  | value _ _ ih =>
    rw [names_cons, Piece.name?, Option.toList_some, List.singleton_append,
      List.filter_cons_of_pos (Name.isAnonymous_anonymous stem _), ih hverbatim]
    rfl
  | shared _ _ _ ih =>
    rw [names_cons, Piece.name?, Option.toList_some, List.singleton_append,
      List.filter_cons_of_neg (by simp [Name.isAnonymous_semantic hstem])]
    exact ih hverbatim n
  | caller _ hanonymous _ _ ih =>
    rw [names_cons, Piece.name?, Option.toList_some, List.singleton_append,
      List.filter_cons_of_neg (by simp [hanonymous])]
    exact ih hverbatim n

/-- The value of an anonymous name is the one whose place it is written at. -/
theorem get?_entries (hstem : Name.IsStem stem) (hsound : Sound stem template)
    (hverbatim : template.hasVerbatim = false) (n i : Nat) :
    Fields.get? (template.entries stem n) (Name.anonymous stem (n + i + 1)) =
      template.values[i]? := by
  induction hsound generalizing n i with
  | nil => rfl
  | verbatim => simp [Piece.isVerbatim] at hverbatim
  | text _ _ ih => exact ih hverbatim n i
  | @value v template _ _ ih =>
    rw [entries_cons, Fields.get?_append, Piece.entries, Fields.get?_cons, Fields.get?_nil]
    cases i with
    | zero => rw [Nat.add_zero, if_pos rfl, Option.some_or]; rfl
    | succ i =>
      have hne : Name.anonymous stem (n + (i + 1) + 1) ≠ Name.anonymous stem (n + 1) := by
        intro heq
        have hnumber := Name.anonymous_injective heq
        omega
      have hrest := ih hverbatim (n + 1) i
      rw [show n + 1 + i + 1 = n + (i + 1) + 1 by omega] at hrest
      rw [if_neg hne, Option.none_or]
      exact hrest
  | shared _ _ _ ih =>
    rw [entries_cons, Fields.get?_append, Piece.entries, Fields.get?_cons, Fields.get?_nil,
      if_neg (Name.anonymous_ne_semantic hstem _ _ _), Option.none_or]
    exact ih hverbatim n i
  | caller _ _ _ _ ih => exact ih hverbatim n i

/-- A statement is written with no anonymous name beside those that are numbered. -/
theorem eq_anonymous_of_mem_entries (hstem : Name.IsStem stem) (hsound : Sound stem template)
    (hverbatim : template.hasVerbatim = false) {n : Nat} {name : String}
    (hmem : name ∈ Fields.names (template.entries stem n))
    (hanonymous : Name.isAnonymous stem name = true) :
    ∃ i < template.count, name = Name.anonymous stem (n + i + 1) := by
  have hread : name ∈ (template.names stem n).filter (Name.isAnonymous stem) :=
    List.mem_filter.mpr ⟨(mem_names_iff hverbatim n).mpr (.inl hmem), hanonymous⟩
  rw [hsound.filter_names hstem hverbatim, List.mem_map] at hread
  obtain ⟨m, hm, rfl⟩ := hread
  obtain ⟨i, hi, rfl⟩ := List.mem_range'.mp hm
  exact ⟨i, hi, congrArg (Name.anonymous stem) (by omega)⟩

end Sound

end Template

end GraphQuery
