import GraphQuery.Value

namespace GraphQuery

theorem Binary.equals_self_iff {F : BinaryFormat} (x : Binary F) :
    x.equals x = true ↔ x ≠ .nan := by
  cases x <;> simp [equals]

namespace Value

mutual

/-- Whether a floating-point number that is not a number occurs anywhere in a value. -/
def holdsNan : Value → Bool
  | .float x => x = .nan
  | .double x => x = .nan
  | .list items => itemsHoldNan items
  | .map entries => entriesHoldNan entries
  | .node _ _ properties => entriesHoldNan properties
  | .rel _ _ _ _ properties => entriesHoldNan properties
  | _ => false

/-- Whether one occurs in the items of a list. -/
def itemsHoldNan : List Value → Bool
  | [] => false
  | item :: items => holdsNan item || itemsHoldNan items

/-- Whether one occurs in the values of a table. -/
def entriesHoldNan : List (String × Value) → Bool
  | [] => false
  | (_, value) :: entries => holdsNan value || entriesHoldNan entries

end

mutual

/-- A value is equal to itself unless something in it is not a number. -/
theorem equals_self_iff : ∀ v : Value, v.equals v = true ↔ v.holdsNan = false
  | .null | .bool _ | .int _ | .string _ | .uuid _ | .timestamp _ | .date _ | .internalId _ => by
    simp [equals, holdsNan]
  | .float x | .double x => by
    simp [equals, holdsNan, Binary.equals_self_iff]
  | .list items => by
    simp [equals, holdsNan, equalItems_self_iff items]
  | .map entries => by
    simp [equals, holdsNan, equalEntries_self_iff entries]
  | .node _ _ properties | .rel _ _ _ _ properties => by
    simp [equals, holdsNan, equalEntries_self_iff properties]

theorem equalItems_self_iff : ∀ items : List Value,
    equalItems items items = true ↔ itemsHoldNan items = false
  | [] => by simp [equalItems, itemsHoldNan]
  | item :: items => by
    rw [equalItems, itemsHoldNan, Bool.and_eq_true, Bool.or_eq_false_iff, equals_self_iff item,
      equalItems_self_iff items]

theorem equalEntries_self_iff : ∀ entries : List (String × Value),
    equalEntries entries entries = true ↔ entriesHoldNan entries = false
  | [] => by simp [equalEntries, entriesHoldNan]
  | (name, value) :: entries => by
    rw [equalEntries, entriesHoldNan, decide_eq_true rfl, Bool.true_and, Bool.and_eq_true,
      Bool.or_eq_false_iff, equals_self_iff value, equalEntries_self_iff entries]

end

end Value

end GraphQuery
