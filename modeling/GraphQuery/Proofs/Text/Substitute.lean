import GraphQuery.Proofs.Text.Replace

namespace GraphQuery.Text

/-- Replaces every occurrence of some marks at once, each by the word that belongs to it. Nothing is
    looked for in a word that was put in. -/
def substituteAll (words : List (List Char × List Char)) : List Char → List Char
  | [] => []
  | c :: rest =>
    match words.find? fun (mark, _) => mark.isPrefixOf (c :: rest) with
    | some (mark, word) => word ++ substituteAll words (rest.drop (mark.length - 1))
    | none => c :: substituteAll words rest
termination_by s => s.length
decreasing_by
  · simp only [List.length_drop, List.length_cons]; omega
  · simp only [List.length_cons]; omega

theorem substituteAll_nil (words : List (List Char × List Char)) :
    substituteAll words [] = [] := by
  rw [substituteAll]

theorem substituteAll_append {words : List (List Char × List Char)} {mark word s : List Char}
    (hmark : mark ≠ [])
    (hfind : words.find? (fun (other, _) => other.isPrefixOf (mark ++ s)) = some (mark, word)) :
    substituteAll words (mark ++ s) = word ++ substituteAll words s := by
  obtain ⟨first, more, rfl⟩ := List.exists_cons_of_ne_nil hmark
  rw [List.cons_append] at hfind ⊢
  rw [substituteAll, hfind]
  dsimp only
  rw [List.length_cons, Nat.add_sub_cancel, List.drop_left]

theorem substituteAll_cons {words : List (List Char × List Char)} {c : Char} {s : List Char}
    (hfind : words.find? (fun (other, _) => other.isPrefixOf (c :: s)) = none) :
    substituteAll words (c :: s) = c :: substituteAll words s := by
  rw [substituteAll, hfind]

/-- Two marks that begin alike and never overlap, neither with each other nor with themselves. -/
structure Apart (first : Char) (more more' : List Char) : Prop where
  fresh : first ∉ more
  fresh' : first ∉ more'
  forth : ¬ more <+: more'
  back : ¬ more' <+: more

namespace Apart

variable {first : Char} {more more' : List Char}

theorem symm (hapart : Apart first more more') : Apart first more' more :=
  ⟨hapart.fresh', hapart.fresh, hapart.back, hapart.forth⟩

/-- Where one mark stands the other one does not begin. -/
theorem not_begins (hapart : Apart first more more') (s : List Char) :
    ¬ first :: more <+: first :: (more' ++ s) := by
  intro hbegins
  rcases List.prefix_or_prefix_of_prefix (List.cons_prefix_cons.mp hbegins).2 ⟨s, rfl⟩ with
    hforth | hback
  · exact hapart.forth hforth
  · exact hapart.back hback

theorem find?_first (more more' word word' s : List Char) :
    [(first :: more, word), (first :: more', word')].find?
        (fun (mark, _) => mark.isPrefixOf (first :: more ++ s)) =
      some (first :: more, word) := by
  simp

theorem find?_second (hapart : Apart first more more') (word word' s : List Char) :
    [(first :: more, word), (first :: more', word')].find?
        (fun (mark, _) => mark.isPrefixOf (first :: more' ++ s)) =
      some (first :: more', word') := by
  have hother : ¬ more <+: more' ++ s := fun hbegins =>
    hapart.not_begins s (List.cons_prefix_cons.mpr ⟨rfl, hbegins⟩)
  simp [hother]

/-- While the first mark is replaced by a word, the places of the second one can be left open: this
    gives a text with as many gaps as the second mark has occurrences. -/
theorem exists_gapped (hapart : Apart first more more') (word s : List Char) :
    ∃ text : List (Option Char),
      replaceAll (first :: more) word s = fill (first :: more') text ∧
      (∀ word', substituteAll [(first :: more, word), (first :: more', word')] s =
        fill word' text) ∧
      text.count none = occurrences (first :: more') s := by
  induction s using occurrence_induction [first :: more, first :: more'] (by simp) with
  | nil => exact ⟨[], replaceAll_nil _ _, fun word' => substituteAll_nil _, rfl⟩
  | occurrence mark s hmark ih =>
    obtain ⟨text, hreplace, hsubstitute, hcount⟩ := ih
    rcases List.mem_pair.mp hmark with rfl | rfl
    · -- the word is text like any other, and the second mark has lost no occurrence
      refine ⟨word.map some ++ text, ?_, fun word' => ?_, ?_⟩
      · rw [replaceAll_pattern_append, hreplace, fill_append, fill_map_some]
      · rw [substituteAll_append (List.cons_ne_nil _ _) (find?_first ..), hsubstitute, fill_append,
          fill_map_some]
      · rw [List.cons_append, occurrences_cons_of_not_begins (hapart.symm.not_begins s),
          occurrences_append hapart.fresh, ← hcount, List.count_append, count_none_map_some,
          Nat.zero_add]
    · -- the first mark is not found here, so that the gap keeps the second one
      refine ⟨none :: text, ?_, fun word' => ?_, ?_⟩
      · rw [List.cons_append, replaceAll_cons_of_not_begins (hapart.not_begins s),
          replaceAll_append hapart.fresh', hreplace, fill_none_cons, List.cons_append]
      · rw [substituteAll_append (List.cons_ne_nil _ _) (hapart.find?_second ..), hsubstitute,
          fill_none_cons]
      · rw [occurrences_pattern_append hapart.fresh', ← hcount, List.count_cons_self]
  | other c s hother ih =>
    obtain ⟨text, hreplace, hsubstitute, hcount⟩ := ih
    have hfirst := hother _ List.mem_cons_self
    have hsecond := hother _ (List.mem_cons_of_mem _ (List.mem_singleton_self _))
    refine ⟨some c :: text, ?_, fun word' => ?_, ?_⟩
    · rw [replaceAll_cons_of_not_begins hfirst, hreplace, fill_some_cons]
    · rw [substituteAll_cons, hsubstitute, fill_some_cons]
      simp [hfirst, hsecond]
    · rw [occurrences_cons_of_not_begins hsecond, ← hcount, List.count_cons_of_ne (by simp)]

/-- Replacing two marks in turn replaces them at once exactly if the words that are put for the
    first one let the second one occur no more often than before, or if that is replaced by
    itself. -/
theorem replaceAll_replaceAll_eq_iff (hapart : Apart first more more')
    (word word' s : List Char) :
    replaceAll (first :: more') word' (replaceAll (first :: more) word s) =
        substituteAll [(first :: more, word), (first :: more', word')] s ↔
      word' = first :: more' ∨
        occurrences (first :: more')
            (substituteAll [(first :: more, word), (first :: more', first :: more')] s) =
          occurrences (first :: more') s := by
  obtain ⟨text, hreplace, hsubstitute, hcount⟩ := hapart.exists_gapped word s
  rw [hreplace, hsubstitute, hsubstitute, ← hcount]
  exact replaceAll_fill_eq_iff hapart.fresh' word' text

/-- So it is if no mark can begin outside of the places of the second one. -/
theorem replaceAll_replaceAll_eq (hapart : Apart first more more') {word s : List Char}
    (hfirst : first ∉ substituteAll [(first :: more, word), (first :: more', [])] s)
    (word' : List Char) :
    replaceAll (first :: more') word' (replaceAll (first :: more) word s) =
      substituteAll [(first :: more, word), (first :: more', word')] s := by
  obtain ⟨text, hreplace, hsubstitute, -⟩ := hapart.exists_gapped word s
  rw [hsubstitute] at hfirst ⊢
  rw [hreplace]
  exact (replaceAll_fill_eq_iff hapart.fresh' word' text).mpr
    (.inr (occurrences_fill_of_not_mem hapart.fresh' hfirst))

end Apart

end GraphQuery.Text
