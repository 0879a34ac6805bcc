import GraphQuery.Proofs.Bindings
import GraphQuery.Query.Scope

namespace GraphQuery

theorem Except.bind_eq_ok {ε α β : Type} {check : Except ε α} {next : α → Except ε β} {b : β} :
    (check >>= next) = .ok b ↔ ∃ a, check = .ok a ∧ next a = .ok b := by
  cases check <;> simp [bind, Except.bind]

theorem Except.exists_eq_ok {ε α : Type} (check : Except ε α) (hok : check.isOk = true) :
    ∃ a, check = .ok a := by
  cases check with
  | ok a => exact ⟨a, rfl⟩
  | error => cases hok

/-- Settings under which the regular expressions are the texts of ASCII letters and digits, each of
    which is one for any library. -/
def Config.plain (settings : Settings) : Config where
  toSettings := settings
  acceptsRegex pattern := pattern.toList.all Char.isAlphanum

namespace RenderM

variable {α β : Type} {before after : Scope}

/-- The number of names that are taken once a part has succeeded. -/
def countAfter? (part : RenderM α) (before : Scope) : Option Nat :=
  match part before with
  | .ok _ after => some after.count
  | .error .. => none

theorem exists_of_countAfter? {part : RenderM α} {n : Nat}
    (hcount : countAfter? part before = some n) :
    ∃ a after, part before = .ok a after ∧ after.count = n := by
  unfold countAfter? at hcount
  split at hcount
  · rename_i a after hpart
    exact ⟨a, after, hpart, Option.some.inj hcount⟩
  · cases hcount

theorem bind_eq_ok {part : RenderM α} {next : α → RenderM β} {b : β} :
    (part >>= next) before = .ok b after ↔
      ∃ a middle, part before = .ok a middle ∧ next a middle = .ok b after := by
  change EStateM.bind part next before = _ ↔ _
  unfold EStateM.bind
  cases hpart : part before with
  | ok a middle =>
    constructor
    · exact fun hnext => ⟨a, middle, rfl, hnext⟩
    · rintro ⟨a', middle', heq, hnext⟩
      cases heq
      exact hnext
  | error error middle => simp

theorem pure_eq_ok {a b : α} :
    (pure a : RenderM α) before = .ok b after ↔ a = b ∧ before = after := by
  change EStateM.Result.ok a before = .ok b after ↔ _
  simp

theorem lift_eq_ok {check : Except QueryError α} {a : α} :
    (liftM check : RenderM α) before = .ok a after ↔ check = .ok a ∧ before = after := by
  cases check with
  | ok value =>
    change EStateM.Result.ok value before = .ok a after ↔ _
    simp
  | error error =>
    change EStateM.Result.error error before = .ok a after ↔ _
    simp

theorem fail_ne_ok {component : String} {cause : Failure} {a : α} :
    (fail component cause : RenderM α) before ≠ .ok a after := by
  intro hfail
  cases hfail

/-- A part that begins with a check succeeds where the check passes and the rest succeeds. -/
theorem unless_fail_eq_ok {c : Prop} [Decidable c] {component : String} {cause : Failure}
    {next : β → RenderM α} {part : RenderM α} {a : α} :
    (if c then fail component cause >>= next else part) before = .ok a after ↔
      ¬ c ∧ part before = .ok a after := by
  by_cases hc : c
  · rw [if_pos hc, bind_eq_ok]
    simp [hc, fail_ne_ok]
  · rw [if_neg hc]
    simp [hc]

theorem located_eq_ok {isTop : Bool} {position : Nat} {part : RenderM α} {a : α} :
    located isTop position part before = .ok a after ↔ part before = .ok a after := by
  cases isTop with
  | false => rfl
  | true =>
    change EStateM.adaptExcept _ part before = _ ↔ _
    unfold EStateM.adaptExcept
    cases part before <;> simp

end RenderM

namespace Scope

variable {before after : Scope}

theorem bind_eq_ok {name : String} {value : Value} (hbind : bind name value before = .ok () after) :
    after.count = before.count ∧ before.bindings.Extends [(name, value)] after.bindings := by
  unfold bind at hbind
  split at hbind
  · rename_i bindings hbound
    cases hbind
    exact ⟨rfl, Bindings.extends_of_bind hbound⟩
  · cases hbind

theorem absorb_eq_ok {bindings : Bindings} (habsorb : absorb bindings before = .ok () after) :
    after.count = before.count ∧ before.bindings.Extends bindings.table after.bindings := by
  unfold absorb at habsorb
  split at habsorb
  · rename_i merged hmerge
    cases habsorb
    exact ⟨rfl, Bindings.extends_of_merge hmerge⟩
  · cases habsorb

theorem bindAnonymous_eq_ok {config : Config} {value : Value} {text : String}
    (hbind : bindAnonymous config value before = .ok text after) :
    text = Name.placeholder (Name.anonymous config.parameterStem (before.count + 1)) ∧
      after.count = before.count + 1 ∧
      before.bindings.Extends
        [(Name.anonymous config.parameterStem (before.count + 1), value)] after.bindings := by
  simp only [bindAnonymous, RenderM.bind_eq_ok, RenderM.pure_eq_ok] at hbind
  obtain ⟨name, reserved, hreserve, _, bound, hbound, rfl, rfl⟩ := hbind
  cases hreserve
  obtain ⟨hcount, hextends⟩ := bind_eq_ok hbound
  exact ⟨rfl, hcount, hextends⟩

theorem bindSemantic_eq_ok {aliasName column : String} {value : Value} {text : String}
    (hbind : bindSemantic aliasName column value before = .ok text after) :
    text = Name.placeholder (Name.semantic aliasName column) ∧ after.count = before.count ∧
      before.bindings.Extends [(Name.semantic aliasName column, value)] after.bindings := by
  simp only [bindSemantic, RenderM.bind_eq_ok, RenderM.pure_eq_ok] at hbind
  obtain ⟨_, bound, hbound, rfl, rfl⟩ := hbind
  obtain ⟨hcount, hextends⟩ := bind_eq_ok hbound
  exact ⟨rfl, hcount, hextends⟩

/-- A part with parameters of its own begins without any, and leaves those around it alone. -/
theorem isolated_eq_ok {part : RenderM String} {fragment : Fragment}
    (hisolated : isolated part before = .ok fragment after) :
    ∃ inner, part ⟨before.count, .empty⟩ = .ok fragment.text inner ∧
      fragment.bindings = inner.bindings ∧ after = ⟨inner.count, before.bindings⟩ := by
  simp only [isolated, RenderM.bind_eq_ok, RenderM.pure_eq_ok] at hisolated
  obtain ⟨_, _, hget, _, _, hclear, text, inner, hpart, _, _, hget', _, _, hrestore, rfl, rfl⟩ :=
    hisolated
  cases hget
  cases hclear
  cases hget'
  cases hrestore
  exact ⟨inner, hpart, rfl, rfl⟩

theorem isolated_of_eq_ok {part : RenderM String} {text : String} {inner : Scope}
    (hpart : part ⟨before.count, .empty⟩ = .ok text inner) :
    isolated part before = .ok ⟨text, inner.bindings⟩ ⟨inner.count, before.bindings⟩ := by
  simp only [isolated, RenderM.bind_eq_ok, RenderM.pure_eq_ok]
  exact ⟨before, before, rfl, (), _, rfl, text, inner, hpart, inner, inner, rfl, (), _, rfl, rfl,
    rfl⟩

end Scope

/-- What is required of the name of a parameter that the caller binds. -/
theorem Name.of_callerPlaceholder {config : Config} {component name text : String}
    (hname : Name.callerPlaceholder config component name = .ok text) :
    Name.isIdentifier name = true ∧ Name.isAnonymous config.parameterStem name = false ∧
      text = Name.placeholder name := by
  unfold Name.callerPlaceholder at hname
  split at hname
  · cases hname
  · rename_i hidentifier
    split at hname
    · cases hname
    · rename_i hanonymous
      cases hname
      exact ⟨by simpa using hidentifier, by simpa using hanonymous, rfl⟩

end GraphQuery
