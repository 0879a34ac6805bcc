import GraphQuery.Proofs.Statement.Reading

namespace GraphQuery

namespace Statement

variable {rename : String → String}

/-- A text with another name behind every dollar sign that stands outside of quotes. A dollar sign
    without a name behind it is kept. -/
def renamedFrom (rename : String → String) (context : Context) : List Char → List Char
  | [] => []
  | c :: rest =>
    if context = .plain ∧ c = '$' then
      match leadingName? rest with
      | some name =>
        '$' :: ((rename name).toList ++ renamedFrom rename .plain (rest.dropWhile Name.isPart))
      | none => '$' :: renamedFrom rename .plain rest
    else c :: renamedFrom rename (context.next c) rest
termination_by text => text.length
decreasing_by
  · exact Nat.lt_succ_of_le (List.dropWhile_suffix _).length_le
  · exact Nat.lt_succ_self _
  · exact Nat.lt_succ_self _

/-- A statement's text with other names at the places of its parameters. -/
def renamed (rename : String → String) (text : String) : String :=
  String.ofList (renamedFrom rename .plain text.toList)

theorem renamedFrom_nil (context : Context) : renamedFrom rename context [] = [] := by
  rw [renamedFrom]

theorem renamedFrom_cons_of_not_dollar {context : Context} {c : Char} (rest : List Char)
    (hdollar : ¬ (context = .plain ∧ c = '$')) :
    renamedFrom rename context (c :: rest) = c :: renamedFrom rename (context.next c) rest := by
  rw [renamedFrom, if_neg hdollar]

theorem renamedFrom_dollar_of_none {rest : List Char} (hname : leadingName? rest = none) :
    renamedFrom rename .plain ('$' :: rest) = '$' :: renamedFrom rename .plain rest := by
  rw [renamedFrom, if_pos ⟨rfl, rfl⟩, hname]

/-- Only what is left of a text decides whether a name stands in front of what follows it. -/
theorem leadingName?_append_eq_none {text : List Char} (hne : text ≠ [])
    (hname : leadingName? text = none) (rest : List Char) :
    leadingName? (text ++ rest) = none := by
  obtain ⟨c, text, rfl⟩ := List.exists_cons_of_ne_nil hne
  unfold leadingName? at hname ⊢
  split at hname
  · cases hname
  · rename_i hstart
    exact if_neg hstart

/-- A text that holds no parameters is left as it is, whatever follows it. -/
theorem renamedFrom_append_of_silent {text : List Char} {context : Context}
    (hsilent : ∀ rest, namesFrom context (text ++ rest) = namesFrom .plain rest)
    (rest : List Char) :
    renamedFrom rename context (text ++ rest) = text ++ renamedFrom rename .plain rest := by
  induction text generalizing context with
  | nil =>
    -- A parameter behind the text would not be read anywhere but outside of quotes.
    have hread := hsilent ['$', 'a']
    cases context with
    | plain => rfl
    | backQuoted | quoted | escaped => exact absurd hread (by decide)
  | cons c text ih =>
    rw [List.cons_append, List.cons_append]
    by_cases hdollar : context = .plain ∧ c = '$'
    · obtain ⟨rfl, rfl⟩ := hdollar
      have hread : ∀ rest, (leadingName? (text ++ rest)).toList ++ namesFrom .plain (text ++ rest) =
          namesFrom .plain rest := by
        intro rest
        have hread := hsilent rest
        rwa [List.cons_append, namesFrom, if_pos ⟨rfl, rfl⟩] at hread
      have hne : text ≠ [] := by
        rintro rfl
        exact absurd (hread ['a']) (by decide)
      have hnone : leadingName? text = none := by
        have hend := hread []
        rw [List.append_nil, namesFrom] at hend
        exact Option.toList_eq_nil_iff.mp (List.append_eq_nil_iff.mp hend).1
      rw [renamedFrom_dollar_of_none (leadingName?_append_eq_none hne hnone rest)]
      congr 1
      refine ih fun rest => ?_
      have hrest := hread rest
      rwa [leadingName?_append_eq_none hne hnone, Option.toList_none, List.nil_append] at hrest
    · rw [renamedFrom_cons_of_not_dollar _ hdollar]
      congr 1
      refine ih fun rest => ?_
      have hread := hsilent rest
      rwa [List.cons_append, namesFrom, if_neg hdollar, List.nil_append] at hread

theorem Silent.renamedFrom {text : String} (hsilent : Silent text) (rest : List Char) :
    renamedFrom rename .plain (text.toList ++ rest) =
      text.toList ++ renamedFrom rename .plain rest :=
  renamedFrom_append_of_silent hsilent rest

/-- At the place of a parameter the new name is written, wherever the old one cannot be taken for a
    longer one. -/
theorem renamedFrom_placeholder {name : String} {rest : List Char}
    (hname : Name.isIdentifier name = true) (hrest : Detached rest) :
    renamedFrom rename .plain ((Name.placeholder name).toList ++ rest) =
      (Name.placeholder (rename name)).toList ++ renamedFrom rename .plain rest := by
  have hplaceholder : ∀ name, (Name.placeholder name).toList = '$' :: name.toList := by
    intro name
    simp [Name.placeholder]
  rw [hplaceholder, hplaceholder, List.cons_append, renamedFrom, if_pos ⟨rfl, rfl⟩,
    leadingName?_append hname hrest]
  simp only [dropWhile_append_of_isIdentifier hname hrest, List.cons_append]

end Statement

end GraphQuery
