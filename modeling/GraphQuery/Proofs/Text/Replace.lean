import GraphQuery.Text.Basic
import Mathlib.Data.List.Infix
import Mathlib.Tactic.Linarith

namespace GraphQuery.Text

/-- How often a pattern occurs in a text, at whatever places. -/
def occurrences (pattern s : List Char) : Nat :=
  s.tails.countP pattern.isPrefixOf

section

variable {pattern s : List Char} {c : Char}

theorem replaceAll_nil (pattern replacement : List Char) :
    replaceAll pattern replacement [] = [] := by
  rw [replaceAll]

theorem replaceAll_cons_of_not_begins (hbegins : ¬ pattern <+: c :: s)
    (replacement : List Char) :
    replaceAll pattern replacement (c :: s) = c :: replaceAll pattern replacement s := by
  rw [replaceAll, if_neg (mt List.isPrefixOf_iff_prefix.mp hbegins)]

theorem occurrences_cons_of_begins (hbegins : pattern <+: c :: s) :
    occurrences pattern (c :: s) = occurrences pattern s + 1 := by
  rw [occurrences, List.tails_cons,
    List.countP_cons_of_pos (List.isPrefixOf_iff_prefix.mpr hbegins), occurrences]

theorem occurrences_cons_of_not_begins (hbegins : ¬ pattern <+: c :: s) :
    occurrences pattern (c :: s) = occurrences pattern s := by
  rw [occurrences, List.tails_cons,
    List.countP_cons_of_neg (mt List.isPrefixOf_iff_prefix.mp hbegins), occurrences]

theorem occurrences_le_cons (pattern : List Char) (c : Char) (s : List Char) :
    occurrences pattern s ≤ occurrences pattern (c :: s) := by
  by_cases hbegins : pattern <+: c :: s
  · rw [occurrences_cons_of_begins hbegins]
    exact Nat.le_succ _
  · rw [occurrences_cons_of_not_begins hbegins]

end

/-- A text is gone through by occurrences of some marks as a whole, and by characters that none of
    them begins with. -/
@[elab_as_elim]
theorem occurrence_induction {motive : List Char → Prop} (marks : List (List Char))
    (hmarks : [] ∉ marks) (nil : motive [])
    (occurrence : ∀ mark s, mark ∈ marks → motive s → motive (mark ++ s))
    (other : ∀ c s, (∀ mark ∈ marks, ¬ mark <+: c :: s) → motive s → motive (c :: s))
    (s : List Char) : motive s := by
  induction hlength : s.length using Nat.strongRecOn generalizing s with
  | ind length ih =>
    subst hlength
    cases s with
    | nil => exact nil
    | cons c s =>
      by_cases hfound : ∃ mark ∈ marks, mark <+: c :: s
      · obtain ⟨mark, hmark, rest, heq⟩ := hfound
        have hne : mark ≠ [] := fun hnil => hmarks (hnil ▸ hmark)
        rw [← heq] at ih ⊢
        refine occurrence mark rest hmark (ih _ ?_ rest rfl)
        rw [List.length_append]
        exact Nat.lt_add_of_pos_left (List.length_pos_iff.mpr hne)
      · exact other c s (fun mark hmark hbegins => hfound ⟨mark, hmark, hbegins⟩)
          (ih _ (by simp) s rfl)

section

variable {first : Char} {more : List Char}

theorem not_prefix_of_ne {c : Char} (hne : c ≠ first) (s : List Char) :
    ¬ first :: more <+: c :: s :=
  fun hbegins => hne (List.cons_prefix_cons.mp hbegins).1.symm

/-- A text that has no first character of the pattern is passed over. -/
theorem replaceAll_append {xs : List Char} (hxs : first ∉ xs) (replacement s : List Char) :
    replaceAll (first :: more) replacement (xs ++ s) =
      xs ++ replaceAll (first :: more) replacement s := by
  induction xs with
  | nil => rfl
  | cons x xs ih =>
    obtain ⟨hne, hmem⟩ := List.ne_and_not_mem_of_not_mem_cons hxs
    rw [List.cons_append, replaceAll_cons_of_not_begins (not_prefix_of_ne (Ne.symm hne) _), ih hmem,
      List.cons_append]

theorem occurrences_append {xs : List Char} (hxs : first ∉ xs) (s : List Char) :
    occurrences (first :: more) (xs ++ s) = occurrences (first :: more) s := by
  induction xs with
  | nil => rfl
  | cons x xs ih =>
    obtain ⟨hne, hmem⟩ := List.ne_and_not_mem_of_not_mem_cons hxs
    rw [List.cons_append, occurrences_cons_of_not_begins (not_prefix_of_ne (Ne.symm hne) _),
      ih hmem]

theorem replaceAll_pattern_append (replacement s : List Char) :
    replaceAll (first :: more) replacement (first :: more ++ s) =
      replacement ++ replaceAll (first :: more) replacement s := by
  have hbegins : (first :: more).isPrefixOf (first :: (more ++ s)) = true :=
    List.isPrefixOf_iff_prefix.mpr ⟨s, rfl⟩
  rw [List.cons_append, replaceAll, if_pos hbegins, List.length_cons, Nat.add_sub_cancel,
    List.drop_left]

/-- A pattern that does not begin again within itself has no occurrences that overlap. -/
theorem occurrences_pattern_append (hfirst : first ∉ more) (s : List Char) :
    occurrences (first :: more) (first :: more ++ s) = occurrences (first :: more) s + 1 := by
  rw [List.cons_append, occurrences_cons_of_begins ⟨s, rfl⟩, occurrences_append hfirst]

theorem replaceAll_self (s : List Char) :
    replaceAll (first :: more) (first :: more) s = s := by
  induction s using occurrence_induction [first :: more] (by simp) with
  | nil => exact replaceAll_nil _ _
  | occurrence mark s hmark ih =>
    obtain rfl := List.mem_singleton.mp hmark
    rw [replaceAll_pattern_append, ih]
  | other c s hother ih =>
    rw [replaceAll_cons_of_not_begins (hother _ (List.mem_singleton_self _)), ih]

theorem length_replaceAll (hfirst : first ∉ more) (replacement s : List Char) :
    (replaceAll (first :: more) replacement s).length +
        (first :: more).length * occurrences (first :: more) s =
      s.length + replacement.length * occurrences (first :: more) s := by
  induction s using occurrence_induction [first :: more] (by simp) with
  | nil =>
    rw [replaceAll_nil]
    rfl
  | occurrence mark s hmark ih =>
    obtain rfl := List.mem_singleton.mp hmark
    rw [replaceAll_pattern_append, occurrences_pattern_append hfirst, List.length_append,
      List.length_append]
    linarith
  | other c s hother ih =>
    have hbegins := hother _ (List.mem_singleton_self _)
    rw [replaceAll_cons_of_not_begins hbegins, occurrences_cons_of_not_begins hbegins,
      List.length_cons, List.length_cons (a := c)]
    omega

/-- A text with gaps, and a word in each of them. -/
def fill (word : List Char) (text : List (Option Char)) : List Char :=
  text.flatMap fun part => part.elim word fun c => [c]

theorem fill_none_cons (word : List Char) (text : List (Option Char)) :
    fill word (none :: text) = word ++ fill word text :=
  rfl

theorem fill_some_cons (word : List Char) (c : Char) (text : List (Option Char)) :
    fill word (some c :: text) = c :: fill word text :=
  rfl

theorem fill_append (word : List Char) (text text' : List (Option Char)) :
    fill word (text ++ text') = fill word text ++ fill word text' :=
  List.flatMap_append

theorem fill_map_some (word s : List Char) : fill word (s.map some) = s := by
  induction s with
  | nil => rfl
  | cons c s ih => rw [List.map_cons, fill_some_cons, ih]

theorem count_none_map_some (s : List Char) : (s.map some).count none = 0 := by
  simp [List.count_eq_zero]

theorem length_fill (word : List Char) (text : List (Option Char)) :
    (fill word text).length = text.countP Option.isSome + word.length * text.count none := by
  induction text with
  | nil => rfl
  | cons part text ih =>
    cases part with
    | none =>
      rw [fill_none_cons, List.length_append, ih, List.count_cons_self,
        List.countP_cons_of_neg (by simp)]
      linarith
    | some c =>
      rw [fill_some_cons, List.length_cons, ih, List.countP_cons_of_pos (by rfl),
        List.count_cons_of_ne (by simp)]
      omega

/-- A text without the first character of a pattern ends before the first gap that is marked by
    it. -/
theorem exists_of_prefix_fill {xs : List Char} {text : List (Option Char)} (hxs : first ∉ xs)
    (hbegins : xs <+: fill (first :: more) text) : ∃ rest, text = xs.map some ++ rest := by
  induction xs generalizing text with
  | nil => exact ⟨text, rfl⟩
  | cons x xs ih =>
    obtain ⟨hne, hmem⟩ := List.ne_and_not_mem_of_not_mem_cons hxs
    cases text with
    | nil => cases List.prefix_nil.mp hbegins
    | cons part text =>
      cases part with
      | none => exact absurd (List.cons_prefix_cons.mp hbegins).1.symm hne
      | some c =>
        obtain ⟨rfl, hrest⟩ := List.cons_prefix_cons.mp hbegins
        obtain ⟨rest, rfl⟩ := ih hmem hrest
        exact ⟨rest, rfl⟩

theorem count_le_occurrences_fill (hfirst : first ∉ more) (text : List (Option Char)) :
    text.count none ≤ occurrences (first :: more) (fill (first :: more) text) := by
  induction text with
  | nil => exact Nat.zero_le _
  | cons part text ih =>
    cases part with
    | none =>
      rw [fill_none_cons, occurrences_pattern_append hfirst, List.count_cons_self]
      exact Nat.succ_le_succ ih
    | some c =>
      rw [fill_some_cons, List.count_cons_of_ne (by simp)]
      exact ih.trans (occurrences_le_cons _ _ _)

/-- The pattern occurs in the gaps only if its first character is nowhere else. -/
theorem occurrences_fill_of_not_mem (hfirst : first ∉ more) {text : List (Option Char)}
    (htext : first ∉ fill [] text) :
    occurrences (first :: more) (fill (first :: more) text) = text.count none := by
  induction text with
  | nil => rfl
  | cons part text ih =>
    cases part with
    | none =>
      rw [fill_none_cons, occurrences_pattern_append hfirst, List.count_cons_self, ih htext]
    | some c =>
      obtain ⟨hne, hmem⟩ := List.ne_and_not_mem_of_not_mem_cons htext
      rw [fill_some_cons, occurrences_cons_of_not_begins (not_prefix_of_ne (Ne.symm hne) _),
        List.count_cons_of_ne (by simp), ih hmem]

/-- What is put for an occurrence outside of the gaps is the pattern, if nothing else is to change.
    There are at least as many occurrences as gaps, so that the lengths agree only if it is as long
    as the pattern. -/
theorem eq_pattern_of_append_eq (hfirst : first ∉ more) {replacement : List Char}
    {text : List (Option Char)}
    (heq : replacement ++ replaceAll (first :: more) replacement (fill (first :: more) text) =
      first :: more ++ fill replacement text) : replacement = first :: more := by
  have hreplaced := length_replaceAll hfirst replacement (fill (first :: more) text)
  obtain ⟨extra, hextra⟩ := Nat.exists_eq_add_of_le (count_le_occurrences_fill hfirst text)
  have hlengths := congrArg List.length heq
  rw [List.length_append, List.length_append] at hlengths
  rw [hextra, length_fill] at hreplaced
  rw [length_fill] at hlengths
  -- the one occurrence at the front and all others outside of gaps add up in the same direction
  have hmul : (extra + 1) * replacement.length = (extra + 1) * (first :: more).length := by
    linarith
  exact (List.append_inj heq (Nat.eq_of_mul_eq_mul_left extra.succ_pos hmul)).1

/-- An occurrence outside of the gaps stays as it is exactly if the pattern is replaced by
    itself. -/
theorem replaceAll_outside_eq_iff (hfirst : first ∉ more) (replacement : List Char)
    (text : List (Option Char)) :
    replaceAll (first :: more) replacement (first :: more ++ fill (first :: more) text) =
        first :: more ++ fill replacement text ↔
      replacement = first :: more := by
  rw [replaceAll_pattern_append]
  constructor
  · exact eq_pattern_of_append_eq hfirst
  · rintro rfl
    rw [replaceAll_self]

/-- Where gaps are marked by a pattern, replacing it fills the gaps and changes nothing else exactly
    if it occurs as often as there are gaps, or is replaced by itself. -/
theorem replaceAll_fill_eq_iff (hfirst : first ∉ more) (replacement : List Char)
    (text : List (Option Char)) :
    replaceAll (first :: more) replacement (fill (first :: more) text) = fill replacement text ↔
      replacement = first :: more ∨
        occurrences (first :: more) (fill (first :: more) text) = text.count none := by
  induction text with
  | nil => exact iff_of_true (replaceAll_nil _ _) (.inr rfl)
  | cons part text ih =>
    cases part with
    | none =>
      rw [fill_none_cons, fill_none_cons, replaceAll_pattern_append, List.append_cancel_left_eq, ih,
        occurrences_pattern_append hfirst, List.count_cons_self, Nat.add_right_cancel_iff]
    | some c =>
      rw [fill_some_cons, fill_some_cons, List.count_cons_of_ne (by simp)]
      by_cases hbegins : first :: more <+: c :: fill (first :: more) text
      · -- an occurrence that begins outside of a gap lies there as a whole
        obtain ⟨rfl, hmore⟩ := List.cons_prefix_cons.mp hbegins
        obtain ⟨rest, rfl⟩ := exists_of_prefix_fill hfirst hmore
        have hmany := count_le_occurrences_fill hfirst rest
        rw [fill_append, fill_append, fill_map_some, fill_map_some, ← List.cons_append,
          ← List.cons_append, replaceAll_outside_eq_iff hfirst, occurrences_pattern_append hfirst,
          List.count_append, count_none_map_some]
        exact (or_iff_left (by omega)).symm
      · rw [replaceAll_cons_of_not_begins hbegins, List.cons_inj_right, ih,
          occurrences_cons_of_not_begins hbegins]

end

end GraphQuery.Text
