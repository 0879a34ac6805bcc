import GraphQuery.Proofs.Name.Parameter
import GraphQuery.Proofs.Statement.Reading
import GraphQuery.Proofs.Text.Hex
import GraphQuery.Proofs.Text.Run

namespace GraphQuery

namespace Name

theorem isAlphanumeric_underscore : isAlphanumeric '_' = false := by
  decide

theorem length_hex_toNat (c : Char) : (Text.hex 6 c.toNat).length = 6 := by
  have hvalid := c.valid
  simp only [UInt32.isValidChar, Nat.isValidChar] at hvalid
  refine Text.length_hex (by decide) ?_
  change c.val.toNat < 16777216
  omega

/-- The three spellings of an escaped character: as itself, doubled, or by its code. -/
theorem escapeChar_spelling (c : Char) :
    (c = '_' ∧ escapeChar c = ['_', '_']) ∨
      (isAlphanumeric c = true ∧ c ≠ '_' ∧ escapeChar c = [c]) ∨
        escapeChar c = '_' :: 'x' :: Text.hex 6 c.toNat := by
  unfold escapeChar
  by_cases hunderscore : c = '_'
  · exact Or.inl ⟨hunderscore, if_pos hunderscore⟩
  · rw [if_neg hunderscore]
    by_cases halphanumeric : isAlphanumeric c = true
    · exact Or.inr (Or.inl ⟨halphanumeric, hunderscore, if_pos halphanumeric⟩)
    · exact Or.inr (Or.inr (if_neg halphanumeric))

theorem escapeChar_ne_nil (c : Char) : escapeChar c ≠ [] := by
  rcases escapeChar_spelling c with ⟨_, hc⟩ | ⟨_, _, hc⟩ | hc
  · simp [hc]
  · simp [hc]
  · simp [hc]

/-- What a text begins with is the escape of one character only. -/
theorem escapeChar_append_inj {c d : Char} {rest rest' : List Char}
    (heq : escapeChar c ++ rest = escapeChar d ++ rest') : c = d ∧ rest = rest' := by
  rcases escapeChar_spelling c with ⟨rfl, hc⟩ | ⟨_, hcne, hc⟩ | hc
  · rcases escapeChar_spelling d with ⟨rfl, hd⟩ | ⟨_, hdne, hd⟩ | hd
    · exact ⟨rfl, by simpa [hc] using heq⟩
    · rw [hc, hd] at heq
      exact absurd (List.cons.inj heq).1.symm hdne
    · simp [hc, hd] at heq
  · rcases escapeChar_spelling d with ⟨rfl, hd⟩ | ⟨_, hdne, hd⟩ | hd
    · rw [hc, hd] at heq
      exact absurd (List.cons.inj heq).1 hcne
    · simpa [hc, hd] using heq
    · rw [hc, hd] at heq
      exact absurd (List.cons.inj heq).1 hcne
  · rcases escapeChar_spelling d with ⟨rfl, hd⟩ | ⟨_, hdne, hd⟩ | hd
    · simp [hc, hd] at heq
    · rw [hc, hd] at heq
      exact absurd (List.cons.inj heq).1.symm hdne
    · rw [hc, hd] at heq
      have hcodes : Text.hex 6 c.toNat ++ rest = Text.hex 6 d.toNat ++ rest' :=
        (List.cons.inj (List.cons.inj heq).2).2
      obtain ⟨hcode, hrest⟩ :=
        List.append_inj hcodes ((length_hex_toNat c).trans (length_hex_toNat d).symm)
      exact ⟨Char.toNat_inj.mp (Text.hex_injective hcode), hrest⟩

theorem escapePart_injective {part part' : String} (heq : escapePart part = escapePart part') :
    part = part' := by
  have hlists : ∀ cs ds : List Char, cs.flatMap escapeChar = ds.flatMap escapeChar → cs = ds := by
    intro cs
    induction cs with
    | nil =>
      intro ds heq
      cases ds with
      | nil => rfl
      | cons d ds =>
        have hempty := (List.append_eq_nil_iff.mp heq.symm).1
        exact absurd hempty (escapeChar_ne_nil d)
    | cons c cs ih =>
      intro ds heq
      cases ds with
      | nil =>
        have hempty := (List.append_eq_nil_iff.mp heq).1
        exact absurd hempty (escapeChar_ne_nil c)
      | cons d ds =>
        rw [List.flatMap_cons, List.flatMap_cons] at heq
        obtain ⟨hchar, hrest⟩ := escapeChar_append_inj heq
        rw [hchar, ih ds hrest]
  exact String.toList_injective (hlists _ _ heq)

theorem toList_semantic_of_plain {aliasName column : String}
    (hplain : isPlainPair aliasName column = true) :
    (semantic aliasName column).toList = aliasName.toList ++ '_' :: column.toList := by
  simp [semantic, hplain]

theorem toList_semantic_of_not_plain {aliasName column : String}
    (hplain : isPlainPair aliasName column = false) :
    (semantic aliasName column).toList =
      '_' :: ((toString (escapePart aliasName).length).toList ++
        '_' :: (escapePart aliasName ++ '_' :: escapePart column)) := by
  simp [semantic, hplain]

theorem isAlphanumeric_of_isPlainPair {aliasName column : String}
    (hplain : isPlainPair aliasName column = true) :
    aliasName.toList ≠ [] ∧ ∀ c ∈ aliasName.toList, isAlphanumeric c = true := by
  simp only [isPlainPair, Bool.and_eq_true, List.all_eq_true] at hplain
  obtain ⟨⟨⟨hnonempty, halphanumeric⟩, _⟩, _⟩ := hplain
  exact ⟨by simpa using hnonempty, halphanumeric⟩

/-- A plain name does not begin with an underscore, as the others do. -/
theorem semantic_ne_of_plain {aliasName column aliasName' column' : String}
    (hplain : isPlainPair aliasName column = true)
    (hplain' : isPlainPair aliasName' column' = false) :
    semantic aliasName column ≠ semantic aliasName' column' := by
  intro heq
  obtain ⟨hnonempty, halphanumeric⟩ := isAlphanumeric_of_isPlainPair hplain
  have hlists := congrArg String.toList heq
  rw [toList_semantic_of_plain hplain, toList_semantic_of_not_plain hplain'] at hlists
  obtain ⟨first, rest, hcons⟩ := List.exists_cons_of_ne_nil hnonempty
  rw [hcons, List.cons_append] at hlists
  have hfirst := halphanumeric first (hcons ▸ List.mem_cons_self)
  rw [(List.cons.inj hlists).1, isAlphanumeric_underscore] at hfirst
  cases hfirst

/-- Alias and column can be read back from the name that they share. The joint of a plain name is
    its first underscore; otherwise the length in front tells where the alias ends. -/
theorem semantic_injective {aliasName column aliasName' column' : String}
    (heq : semantic aliasName column = semantic aliasName' column') :
    aliasName = aliasName' ∧ column = column' := by
  have hlists := congrArg String.toList heq
  cases hplain : isPlainPair aliasName column with
  | true =>
    cases hplain' : isPlainPair aliasName' column' with
    | true =>
      rw [toList_semantic_of_plain hplain, toList_semantic_of_plain hplain'] at hlists
      obtain ⟨halias, hcolumn⟩ := Text.append_inj_of_run
        (isAlphanumeric_of_isPlainPair hplain).2 (isAlphanumeric_of_isPlainPair hplain').2
        (Text.ends_cons isAlphanumeric_underscore _) (Text.ends_cons isAlphanumeric_underscore _)
        hlists
      exact ⟨String.toList_injective halias,
        String.toList_injective (List.cons.inj hcolumn).2⟩
    | false => exact absurd heq (semantic_ne_of_plain hplain hplain')
  | false =>
    cases hplain' : isPlainPair aliasName' column' with
    | true => exact absurd heq.symm (semantic_ne_of_plain hplain' hplain)
    | false =>
      rw [toList_semantic_of_not_plain hplain, toList_semantic_of_not_plain hplain'] at hlists
      obtain ⟨hlength, hparts⟩ := Text.append_inj_of_run
        (fun _ hmem => isDigit_of_mem_toString hmem) (fun _ hmem => isDigit_of_mem_toString hmem)
        (Text.ends_cons (by decide) _) (Text.ends_cons (by decide) _) (List.cons.inj hlists).2
      obtain ⟨halias, hcolumn⟩ := List.append_inj (List.cons.inj hparts).2
        (toString_injective (String.toList_injective hlength))
      exact ⟨escapePart_injective halias, escapePart_injective (List.cons.inj hcolumn).2⟩

/-- Parameters never share a name by accident: a shared name belongs to one alias and one column,
    a number to one value, and no name is of both kinds. Where the alias is an identifier, so is the
    name, and it is read back from the place of its parameter. -/
theorem parameter_names_distinct {settings : Settings} (hvalid : settings.validate = .ok ()) :
    (∀ aliasName column aliasName' column',
      semantic aliasName column = semantic aliasName' column' ↔
        aliasName = aliasName' ∧ column = column') ∧
    (∀ n m, n ≠ m →
      anonymous settings.parameterStem n ≠ anonymous settings.parameterStem m) ∧
    (∀ n, isAnonymous settings.parameterStem (anonymous settings.parameterStem n) = true) ∧
    (∀ aliasName column,
      isAnonymous settings.parameterStem (semantic aliasName column) = false) ∧
    (∀ n aliasName column,
      anonymous settings.parameterStem n ≠ semantic aliasName column) ∧
    ∀ aliasName column, isIdentifier aliasName = true →
      isIdentifier (semantic aliasName column) = true ∧
        Statement.namesFrom .plain (placeholder (semantic aliasName column)).toList =
          [semantic aliasName column] := by
  have hstem := isStem_of_validate hvalid
  refine ⟨fun aliasName column aliasName' column' => ⟨semantic_injective, ?_⟩, ?_,
    isAnonymous_anonymous _, isAnonymous_semantic hstem, anonymous_ne_semantic hstem, ?_⟩
  · rintro ⟨rfl, rfl⟩
    rfl
  · exact fun n m hne heq => hne (anonymous_injective heq)
  · intro aliasName column halias
    have hname := isIdentifier_semantic halias column
    have hend : Statement.Detached [] := Text.ends_nil isPart
    have hread := Statement.namesFrom_placeholder hname hend
    rw [List.append_nil, Statement.namesFrom] at hread
    exact ⟨hname, hread⟩

theorem parameter_names_distinct_by_default :
    ({} : Settings).validate = .ok () ∧
      semantic "p_a" "b" ≠ semantic "p" "a_b" ∧
      anonymous "param" 1 ≠ anonymous "param" 11 ∧
      isAnonymous "param" (anonymous "param" 11) = true ∧
      isAnonymous "param" (semantic "param1" "") = false ∧
      anonymous "param" 1 ≠ semantic "param1" "" ∧
      Statement.namesFrom .plain (placeholder (semantic "p" "first-name")).toList =
        [semantic "p" "first-name"] := by
  have hvalid : ({} : Settings).validate = .ok () := by decide +kernel
  obtain ⟨hshared, hnumbers, hanonymous, hsemantic, hkinds, hread⟩ :=
    @parameter_names_distinct {} hvalid
  refine ⟨hvalid, fun heq => ?_, hnumbers 1 11 (by decide), hanonymous 11, hsemantic "param1" "",
    hkinds 1 "param1" "", (hread "p" "first-name" (by decide)).2⟩
  have hparts := (hshared "p_a" "b" "p" "a_b").mp heq
  exact absurd hparts.1 (by decide)

end Name

end GraphQuery
