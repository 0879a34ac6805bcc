import GraphQuery.Proofs.Bindings.Merge

namespace GraphQuery

namespace Bindings

/-- A change that is asked of a table of parameters. -/
inductive Operation where
  | bind (name : String) (value : Value)
  | merge (other : Bindings)

namespace Operation

/-- The values that an operation offers, each with its name, in the order in which it binds them. -/
def offers : Operation → Fields Value
  | bind name value => [(name, value)]
  | merge other => other.table

/-- The table after an operation, and the error that the operation fails with if it does. -/
def apply (bindings : Bindings) : Operation → Bindings × Option QueryError
  | bind name value =>
    match bindings.bind name value with
    | .ok after => (after, none)
    | .error conflict => (bindings, some conflict)
  | merge other => bindings.merge other

/-- How an operation on the table `held` fails with an error and leaves the table `left` behind. The
    error is a conflict between the value that a name has and the one that is offered for it. A
    binding changes nothing then; a merge fails at the least name that the two tables disagree on,
    and has added the entries of the other table whose names come before it. -/
def Fails (held : Bindings) (error : QueryError) (left : Bindings) : Operation → Prop
  | bind name value => left = held ∧ ∃ existing, held.get? name = some existing ∧
      existing.equals value = false ∧ error = .conflict none name existing value
  | merge other => ∃ name existing incoming, held.get? name = some existing ∧
      other.get? name = some incoming ∧ existing.equals incoming = false ∧
      error = .conflict none name existing incoming ∧
      (∀ name' v w, held.get? name' = some v → other.get? name' = some w →
        v.equals w = false → name ≤ name') ∧
      ∀ name', left.get? name' =
        if name' < name then (held.get? name').or (other.get? name') else held.get? name'

end Operation

/-- Operations one after the other, each on the table that the one before has left, whether that one
    failed or not: the table in the end, and the error of each operation that fails. -/
def applyAll (bindings : Bindings) : List Operation → Bindings × List (Option QueryError)
  | [] => (bindings, [])
  | operation :: operations =>
    let (middle, outcome) := operation.apply bindings
    let (after, outcomes) := middle.applyAll operations
    (after, outcome :: outcomes)

/-- Whether no operation fails. -/
def Accepts (bindings : Bindings) (operations : List Operation) : Prop :=
  ∀ outcome ∈ (bindings.applyAll operations).2, outcome = none

/-- All values that a name is given: the one it has, and those that operations offer for it. -/
def offered (bindings : Bindings) (operations : List Operation) : Fields Value :=
  bindings.table ++ operations.flatMap Operation.offers

/-- Entries of the same name have equal values. Which of two entries comes first does not matter,
    and a single entry need not be equal to itself. -/
def Consistent (entries : Fields Value) : Prop :=
  entries.Pairwise fun a b => a.1 = b.1 → a.2.equals b.2 = true

/-- Two tables with the same names, of which each has the same value or equal ones. -/
def Alike (first second : Bindings) : Prop :=
  ∀ name, Option.Rel (fun v w => v = w ∨ v.equals w = true) (first.get? name) (second.get? name)

variable {before middle after held left other : Bindings} {first second entries : Fields Value}
  {operation : Operation} {operations : List Operation} {error : QueryError}

theorem Consistent.perm (hconsistent : Consistent first) (hperm : first.Perm second) :
    Consistent second := by
  refine (hperm.pairwise_iff fun hequals hname => ?_).mp hconsistent
  rw [Value.equals_comm]
  exact hequals hname.symm

/-- What a table and entries agree on is the consistency of all of them together. -/
theorem agrees_iff_consistent : before.Agrees entries ↔ Consistent (before.table ++ entries) := by
  rw [Consistent, List.pairwise_append]
  constructor
  · intro hagrees
    refine ⟨before.table_pairwise, hagrees.pairwise, fun a ha b hb hname => ?_⟩
    exact hagrees.bound b hb a.2 (hname ▸ get?_of_mem_table ha)
  · rintro ⟨_, hpairwise, hcross⟩
    exact ⟨hpairwise, fun entry hmem v hbound =>
      hcross _ (Fields.mem_of_get? hbound) entry hmem rfl⟩

/-- A name has the first value that it is given. -/
theorem Extends.get?_eq (hextends : before.Extends entries after) (name : String) :
    after.get? name = Fields.get? (before.table ++ entries) name := by
  rw [hextends, Fields.get?_append]
  rfl

/-- The order in which consistent values are given decides only which one of equal values is
    kept. -/
theorem rel_get?_of_perm (hconsistent : Consistent first) (hperm : first.Perm second)
    (name : String) :
    Option.Rel (fun v w => v = w ∨ v.equals w = true) (first.get? name) (second.get? name) := by
  cases hfirst : first.get? name with
  | none =>
    have hnone : second.get? name = none := by
      rw [Fields.get?_eq_none_iff] at hfirst ⊢
      exact fun hmem => hfirst ((hperm.map Prod.fst).mem_iff.mpr hmem)
    rw [hnone]
    exact .none
  | some v =>
    have hmem : (name, v) ∈ second := hperm.mem_iff.mp (Fields.mem_of_get? hfirst)
    obtain ⟨w, hsecond, hw⟩ := Agrees.eq_or_equals_of_get? (hconsistent.perm hperm) hmem
    rw [hsecond]
    refine .some (hw.imp Eq.symm fun hequals => ?_)
    rwa [Value.equals_comm]

theorem bindAll_append_eq_ok_iff :
    before.bindAll (first ++ second) = (after, none) ↔
      ∃ middle, before.bindAll first = (middle, none) ∧ middle.bindAll second = (after, none) := by
  simp only [bindAll_eq_ok_iff]
  constructor
  · rintro ⟨hagrees, hextends⟩
    obtain ⟨middle, hfirst⟩ := exists_bindAll_of_agrees hagrees.of_append_left
    have hmiddle := extends_of_bindAll hfirst
    obtain ⟨last, hsecond⟩ := exists_bindAll_of_agrees (hagrees.of_append_right hmiddle)
    have hlast := extends_of_bindAll hsecond
    rw [hextends.unique (hmiddle.trans hlast)]
    exact ⟨middle, ⟨hagrees.of_append_left, hmiddle⟩, hagrees.of_append_right hmiddle, hlast⟩
  · rintro ⟨middle, ⟨hfirst, hmiddle⟩, hsecond, hlast⟩
    exact ⟨hfirst.append hmiddle hsecond, hmiddle.trans hlast⟩

/-- Where binding entries stops, those before the conflict are bound and the next one is refused. -/
theorem exists_split_of_bindAll (hbind : before.bindAll entries = (after, some error)) :
    ∃ bound name value rest, entries = bound ++ (name, value) :: rest ∧
      before.bindAll bound = (after, none) ∧ after.bind name value = .error error := by
  induction entries generalizing before with
  | nil => cases hbind
  | cons entry entries ih =>
    obtain ⟨name, value⟩ := entry
    unfold bindAll at hbind
    split at hbind
    · rename_i middle hfirst
      obtain ⟨bound, name', value', rest, rfl, hbound, hrefused⟩ := ih hbind
      refine ⟨(name, value) :: bound, name', value', rest, rfl, ?_, hrefused⟩
      rw [bindAll, hfirst]
      exact hbound
    · rename_i hrefused
      cases hbind
      exact ⟨[], name, value, entries, rfl, rfl, hrefused⟩

namespace Operation

/-- An operation binds what it offers. -/
theorem apply_eq_bindAll (operation : Operation) (bindings : Bindings) :
    operation.apply bindings = bindings.bindAll operation.offers := by
  cases operation with
  | merge => rfl
  | bind name value =>
    rw [apply, offers, bindAll]
    cases bindings.bind name value <;> rfl

/-- A merge stops at the least name that the two tables disagree on. -/
theorem fails_of_merge (hmerge : held.merge other = (left, some error)) :
    (merge other).Fails held error left := by
  obtain ⟨bound, name, incoming, rest, htable, hbound, hrefused⟩ := exists_split_of_bindAll hmerge
  obtain ⟨existing, rfl, hleft, hequals⟩ := conflict_of_bind hrefused
  have hget : ∀ name', Fields.get? bound name' =
      if name' < name then other.get? name' else none := by
    intro name'
    have hfront := (htable ▸ other.sorted : Fields.Sorted (bound ++ _)).get?_front name'
    rwa [← htable] at hfront
  have hkept : ∀ name', left.get? name' =
      if name' < name then (held.get? name').or (other.get? name') else held.get? name' := by
    intro name'
    rw [extends_of_bindAll hbound, hget]
    split
    · rfl
    · rw [Option.or_none]
  have hheld : held.get? name = some existing := by
    rw [← hleft, hkept, if_neg (String.lt_irrefl name)]
  have hother : other.get? name = some incoming := by
    have hmem : (name, incoming) ∈ other.table := by
      rw [htable]
      exact List.mem_append_right _ List.mem_cons_self
    exact get?_of_mem_table hmem
  refine ⟨name, existing, incoming, hheld, hother, hequals, rfl, fun name' v w hv hw hdiffer => ?_,
    hkept⟩
  -- An entry with a lesser name was bound before the conflict, and so agrees with what was held.
  by_contra hlt
  have hmem : (name', w) ∈ bound := by
    refine Fields.mem_of_get? ?_
    rw [hget, if_pos (String.not_le.mp hlt), hw]
  have hagrees := (agrees_of_bindAll hbound).bound _ hmem v hv
  rw [hdiffer] at hagrees
  cases hagrees

theorem fails_of_apply (hfails : operation.apply held = (left, some error)) :
    operation.Fails held error left := by
  cases operation with
  | merge other => exact fails_of_merge hfails
  | bind name value =>
    rw [apply] at hfails
    cases hbind : held.bind name value with
    | ok after =>
      rw [hbind] at hfails
      cases hfails
    | error conflict =>
      rw [hbind] at hfails
      cases hfails
      obtain ⟨existing, rfl, hheld, hequals⟩ := conflict_of_bind hbind
      exact ⟨rfl, existing, hheld, hequals, rfl⟩

end Operation

/-- No operation fails exactly if all that they offer can be bound, one after the other. -/
theorem accepts_iff :
    before.Accepts operations ∧ (before.applyAll operations).1 = after ↔
      before.bindAll (operations.flatMap Operation.offers) = (after, none) := by
  induction operations generalizing before with
  | nil => simp [Accepts, applyAll, bindAll]
  | cons operation operations ih =>
    rw [List.flatMap_cons, bindAll_append_eq_ok_iff, ← operation.apply_eq_bindAll]
    rcases hstep : operation.apply before with ⟨middle, outcome⟩
    have hcons : before.applyAll (operation :: operations) =
        ((middle.applyAll operations).1, outcome :: (middle.applyAll operations).2) := by
      rw [applyAll, hstep]
    simp only [Accepts, hcons, List.forall_mem_cons, Prod.mk.injEq, and_assoc]
    constructor
    · rintro ⟨rfl, hrest⟩
      exact ⟨middle, rfl, rfl, ih.mp hrest⟩
    · rintro ⟨_, rfl, rfl, hrest⟩
      exact ⟨rfl, ih.mpr hrest⟩

/-- Operations are accepted exactly if all values that a name is given are equal. -/
theorem accepts_iff_consistent :
    before.Accepts operations ↔ Consistent (before.offered operations) := by
  rw [offered, ← agrees_iff_consistent]
  constructor
  · intro haccepts
    exact agrees_of_bindAll (accepts_iff.mp ⟨haccepts, rfl⟩)
  · intro hagrees
    obtain ⟨after, hbind⟩ := exists_bindAll_of_agrees hagrees
    exact (accepts_iff.mpr hbind).1

/-- The table after operations that are accepted. -/
theorem get?_of_accepts (haccepts : before.Accepts operations) (name : String) :
    (before.applyAll operations).1.get? name = Fields.get? (before.offered operations) name :=
  (extends_of_bindAll (accepts_iff.mp ⟨haccepts, rfl⟩)).get?_eq name

/-- The operation at a position is applied to the table that the operations before it have left. -/
theorem applyAll_at (before : Bindings) {position : Nat}
    (hoperation : operations[position]? = some operation) :
    (before.applyAll operations).2[position]? =
        some (operation.apply (before.applyAll (operations.take position)).1).2 ∧
      (before.applyAll (operations.take (position + 1))).1 =
        (operation.apply (before.applyAll (operations.take position)).1).1 := by
  induction operations generalizing before position with
  | nil => cases hoperation
  | cons first operations ih =>
    cases position with
    | zero =>
      cases hoperation
      exact ⟨rfl, rfl⟩
    | succ position => exact ih _ hoperation

/-- Operations on a table of parameters never overwrite a value, and their order does not matter.
    None fails exactly if all values that a name is given are equal. Each name then has the first of
    them, and in any other order no operation fails either and the same names have the same or equal
    values. An operation that fails, at whatever position, reports the conflict and keeps what the
    table held before. -/
theorem applyAll_outcomes (before : Bindings) (operations : List Operation) :
    (before.Accepts operations ↔ Consistent (before.offered operations)) ∧
    (before.Accepts operations →
      (∀ name, (before.applyAll operations).1.get? name =
        Fields.get? (before.offered operations) name) ∧
      ∀ reordered, operations.Perm reordered →
        before.Accepts reordered ∧
          (before.applyAll operations).1.Alike (before.applyAll reordered).1) ∧
    ∀ (position : Nat) (operation : Operation) (error : QueryError),
      operations[position]? = some operation →
      (before.applyAll operations).2[position]? = some (some error) →
      operation.Fails (before.applyAll (operations.take position)).1 error
        (before.applyAll (operations.take (position + 1))).1 := by
  refine ⟨accepts_iff_consistent, fun haccepts => ⟨get?_of_accepts haccepts, ?_⟩, ?_⟩
  · intro reordered hperm
    have hconsistent := accepts_iff_consistent.mp haccepts
    have hoffered : (before.offered operations).Perm (before.offered reordered) :=
      (hperm.flatMap_right _).append_left _
    have hreordered := accepts_iff_consistent.mpr (hconsistent.perm hoffered)
    refine ⟨hreordered, fun name => ?_⟩
    rw [get?_of_accepts haccepts, get?_of_accepts hreordered]
    exact rel_get?_of_perm hconsistent hoffered name
  · intro position operation error hoperation herror
    obtain ⟨houtcome, hleft⟩ := applyAll_at before hoperation
    rw [herror, Option.some.injEq] at houtcome
    rw [hleft]
    exact Operation.fails_of_apply (Prod.ext rfl houtcome.symm)

/-- A name and a score that are bound, and then stated once more. The scores are the zeros of both
    signs, which are equal. -/
def scoreOfAda : List Operation :=
  [.bind "name" (.string "Ada"), .bind "score" (.double (.signed false 0)),
    .merge (.ofList [("name", .string "Ada"), ("score", .double (.signed true 0))])]

/-- The parameters of another person. -/
def scoreOfEve : Bindings :=
  ofList [("city", .string "Oslo"), ("name", .string "Eve"), ("score", .null)]

/-- Whichever zero is bound first is kept, and a contradicting name keeps out what comes after
    it. -/
theorem scoreOfAda_outcomes :
    empty.Accepts scoreOfAda ∧ empty.Accepts scoreOfAda.reverse ∧
      (empty.applyAll scoreOfAda).1.Alike (empty.applyAll scoreOfAda.reverse).1 ∧
      (empty.applyAll scoreOfAda).1.get? "score" = some (.double (.signed false 0)) ∧
      (empty.applyAll scoreOfAda.reverse).1.get? "score" = some (.double (.signed true 0)) ∧
      ∃ left, (Operation.merge scoreOfEve).Fails (empty.applyAll scoreOfAda).1
          (.conflict none "name" (.string "Ada") (.string "Eve")) left ∧
        left.get? "city" = some (.string "Oslo") := by
  have haccepts : empty.Accepts scoreOfAda := by
    unfold Accepts
    decide +kernel
  obtain ⟨hget, hreordered⟩ := (applyAll_outcomes empty scoreOfAda).2.1 haccepts
  obtain ⟨hreverse, halike⟩ := hreordered scoreOfAda.reverse scoreOfAda.reverse_perm.symm
  have hfails := (applyAll_outcomes empty (scoreOfAda ++ [.merge scoreOfEve])).2.2 3
    (.merge scoreOfEve) (.conflict none "name" (.string "Ada") (.string "Eve")) rfl rfl
  refine ⟨haccepts, hreverse, halike, hget "score", ?_, _, hfails, rfl⟩
  exact ((applyAll_outcomes empty scoreOfAda.reverse).2.1 hreverse).1 "score"

end Bindings

end GraphQuery
