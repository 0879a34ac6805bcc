import GraphQuery.Proofs.Bindings.Renaming
import GraphQuery.Proofs.Conflict.Leaf
import GraphQuery.Proofs.Name.Renumber
import GraphQuery.Proofs.Statement.Renaming
import GraphQuery.Proofs.Template.Parameter
import GraphQuery.Proofs.Template.Place

namespace GraphQuery

namespace Template

variable {stem stem' : String} {template : Template} {n n' : Nat} {rename : String → String}

theorem suppliedNames_eq_nil (hverbatim : template.hasVerbatim = false) :
    template.suppliedNames = [] := by
  induction template with
  | nil => rfl
  | cons piece template ih =>
    rw [hasVerbatim_cons, Bool.or_eq_false_iff] at hverbatim
    cases piece with
    | verbatim => cases hverbatim.1
    | text | value | shared | caller => exact ih hverbatim.2

/-- A piece takes an anonymous name for a value, or binds just what has a name of its own. -/
theorem entries_eq_named_or (stem : String) (n : Nat) (piece : Piece) :
    piece.entries stem n = piece.named ∨ ∃ v, piece = .value v := by
  cases piece with
  | value v => exact .inr ⟨v, rfl⟩
  | text | shared | caller | verbatim => exact .inl rfl

/-- A value that is bound has a number of its own or is one that has a name of its own. -/
theorem mem_entries {entry : String × Value} (hmem : entry ∈ template.entries stem n) :
    (∃ k, entry.1 = Name.anonymous stem (n + k + 1)) ∨ entry ∈ template.named := by
  induction template generalizing n with
  | nil => cases hmem
  | cons piece template ih =>
    rw [entries_cons, List.mem_append] at hmem
    rcases hmem with hfirst | hrest
    · rcases entries_eq_named_or stem n piece with hnamed | ⟨v, rfl⟩
      · rw [hnamed] at hfirst
        exact .inr (List.mem_append_left _ hfirst)
      · exact .inl ⟨0, congrArg Prod.fst (List.mem_singleton.mp hfirst)⟩
    · rcases ih hrest with ⟨k, hname⟩ | hnamed
      · exact .inl ⟨count [piece] + k, by rw [hname, Nat.add_assoc n]⟩
      · exact .inr (List.mem_append_right _ hnamed)

/-- Without text in the caller's own words, the names of its own that a value may have are those of
    an alias and a column. -/
theorem eq_semantic_of_mem_named (hverbatim : template.hasVerbatim = false)
    {entry : String × Value} (hmem : entry ∈ template.named) :
    ∃ aliasName column, entry.1 = Name.semantic aliasName column := by
  obtain ⟨piece, hpiece, hentry⟩ := List.mem_flatMap.mp hmem
  cases piece with
  | shared aliasName column v =>
    exact ⟨aliasName, column, congrArg Prod.fst (List.mem_singleton.mp hentry)⟩
  | verbatim => exact absurd rfl (List.any_eq_false.mp hverbatim _ hpiece)
  | text | value | caller => cases hentry

theorem isHandedOut_of_mem_entries (hverbatim : template.hasVerbatim = false) {name : String}
    (hmem : name ∈ Fields.names (template.entries stem n)) : Name.IsHandedOut stem n name := by
  obtain ⟨entry, hentry, rfl⟩ := List.mem_map.mp hmem
  exact (mem_entries hentry).imp_right (eq_semantic_of_mem_named hverbatim)

/-- Wherever the numbering begins, two values of a template are bound to one name only if they have
    that name of their own. -/
theorem pairwise_entries (hown : ∀ entry ∈ template.named, Name.isAnonymous stem entry.1 = false)
    (hnamed : template.named.Pairwise fun a b => a.1 = b.1 → a.2.equals b.2 = true) (n : Nat) :
    (template.entries stem n).Pairwise fun a b => a.1 = b.1 → a.2.equals b.2 = true := by
  induction template generalizing n with
  | nil => exact List.Pairwise.nil
  | cons piece template ih =>
    obtain ⟨hownFirst, hownRest⟩ := List.forall_mem_append.mp hown
    obtain ⟨hfirst, hrest, hcross⟩ := List.pairwise_append.mp hnamed
    rw [entries_cons]
    rcases entries_eq_named_or stem n piece with heq | ⟨v, rfl⟩
    · rw [heq]
      refine List.pairwise_append.mpr ⟨hfirst, ih hownRest hrest _, fun a ha b hb hname => ?_⟩
      rcases mem_entries hb with ⟨k, hnumber⟩ | hb
      · have hanonymous := hownFirst a ha
        rw [hname, hnumber, Name.isAnonymous_anonymous] at hanonymous
        cases hanonymous
      · exact hcross a ha b hb hname
    · refine List.Pairwise.cons (fun b hb hname => ?_) (ih hownRest hrest _)
      rcases mem_entries hb with ⟨k, hnumber⟩ | hb
      · have hnumber := Name.anonymous_injective (hname.trans hnumber)
        change n + 1 = n + 1 + k + 1 at hnumber
        omega
      · have hanonymous := hownRest b hb
        rw [← hname, Name.isAnonymous_anonymous] at hanonymous
        cases hanonymous

/-- Where every anonymous name that is bound has been handed out, the values of a template can be
    bound one after the other if those that have names of their own can. -/
theorem agrees_entries_of_named {before : Scope} (hnumbered : before.Numbered stem)
    (hown : ∀ entry ∈ template.named, Name.isAnonymous stem entry.1 = false)
    (hnamed : before.bindings.Agrees template.named) :
    before.bindings.Agrees (template.entries stem before.count) := by
  refine ⟨pairwise_entries hown hnamed.pairwise _, fun entry hmem v hbound => ?_⟩
  rcases mem_entries hmem with ⟨k, hname⟩ | hmem
  · rw [hname] at hbound
    obtain ⟨l, hl, hnumber⟩ := hnumbered _ v hbound (Name.isAnonymous_anonymous ..)
    have hnumber := Name.anonymous_injective hnumber
    omega
  · exact hnamed.bound entry hmem v hbound

/-- Wherever the numbering begins, the values of a template can be bound one after the other if
    those that have names of their own can. -/
theorem agrees_entries (hstem : Name.IsStem stem) (hverbatim : template.hasVerbatim = false)
    (hnamed : template.named.Pairwise fun a b => a.1 = b.1 → a.2.equals b.2 = true) (n : Nat) :
    Bindings.empty.Agrees (template.entries stem n) := by
  refine ⟨pairwise_entries (fun entry hmem => ?_) hnamed n, fun _ _ _ hbound => by cases hbound⟩
  obtain ⟨aliasName, column, hname⟩ := eq_semantic_of_mem_named hverbatim hmem
  rw [hname]
  exact Name.isAnonymous_semantic hstem aliasName column

/-- Under another numbering a template is written with the same values, under other names. -/
theorem entries_renumbered (hrename : Name.Renumbers rename stem n stem' n')
    (hstem : Name.IsStem stem) (hverbatim : template.hasVerbatim = false) :
    template.entries stem' n' = Fields.renamed rename (template.entries stem n) := by
  induction template generalizing n n' with
  | nil => rfl
  | cons piece template ih =>
    rw [hasVerbatim_cons, Bool.or_eq_false_iff] at hverbatim
    have happend : ∀ first second : Fields Value,
        (first ++ second).renamed rename = first.renamed rename ++ second.renamed rename :=
      fun _ _ => List.map_append
    rw [entries_cons, entries_cons, happend]
    cases piece with
    | verbatim => cases hverbatim.1
    | text | caller => exact ih hrename hverbatim.2
    | value v =>
      have hfirst : Piece.entries stem' n' (.value v) =
          Fields.renamed rename (Piece.entries stem n (.value v)) :=
        congrArg (fun name => [(name, v)]) hrename.anonymous_succ.symm
      rw [hfirst]
      exact congrArg _ (ih hrename.next hverbatim.2)
    | shared aliasName column v =>
      have hfirst : Piece.entries stem' n' (.shared aliasName column v) =
          Fields.renamed rename (Piece.entries stem n (.shared aliasName column v)) :=
        congrArg (fun name => [(name, v)]) (hrename.semantic_eq hstem _ _).symm
      rw [hfirst]
      exact congrArg _ (ih hrename hverbatim.2)

/-- Under another numbering the text of a template has other names at the places of values, and is
    the same elsewhere. -/
theorem Sound.renamedFrom_fill (hsound : Sound stem template)
    (hrename : Name.Renumbers rename stem n stem' n') (hstem : Name.IsStem stem)
    (hverbatim : template.hasVerbatim = false) :
    Statement.renamedFrom rename .plain (template.fill stem n).toList =
      (template.fill stem' n').toList := by
  induction hsound generalizing n n' with
  | nil => rw [fill_nil, fill_nil]; exact Statement.renamedFrom_nil _
  | verbatim => cases hverbatim
  | text hsilent _ ih =>
    rw [fill_cons, fill_cons, String.toList_append, String.toList_append]
    exact (hsilent.renamedFrom _).trans (congrArg _ (ih hrename hverbatim))
  | value hdetached _ ih =>
    have hname := Name.isIdentifier_anonymous hstem (n + 1)
    rw [fill_cons, fill_cons, String.toList_append, String.toList_append, Piece.fill, Piece.fill,
      Statement.renamedFrom_placeholder hname (hdetached stem _), hrename.anonymous_succ]
    exact congrArg _ (ih hrename.next hverbatim)
  | @shared aliasName column v template halias hdetached _ ih =>
    have hname := Name.isIdentifier_semantic halias column
    rw [fill_cons, fill_cons, String.toList_append, String.toList_append, Piece.fill, Piece.fill,
      Statement.renamedFrom_placeholder hname (hdetached stem _), hrename.semantic_eq hstem]
    exact congrArg _ (ih hrename hverbatim)
  | caller hname hanonymous hdetached _ ih =>
    rw [fill_cons, fill_cons, String.toList_append, String.toList_append, Piece.fill, Piece.fill,
      Statement.renamedFrom_placeholder hname (hdetached stem _), hrename.eq_self _ hanonymous]
    exact congrArg _ (ih hrename hverbatim)

end Template

end GraphQuery
