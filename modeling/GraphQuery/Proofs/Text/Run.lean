import Mathlib.Data.List.TakeWhile

namespace GraphQuery.Text

/-- A text that does not go on with a character of a class. -/
def Ends (class? : Char → Bool) (text : List Char) : Prop :=
  ∀ c ∈ text.head?, class? c = false

theorem ends_nil (class? : Char → Bool) : Ends class? [] := by
  intro c hmem
  cases hmem

theorem ends_cons {class? : Char → Bool} {c : Char} (hother : class? c = false)
    (text : List Char) : Ends class? (c :: text) := by
  intro first hmem
  rwa [← Option.some.inj hmem]

theorem takeWhile_run {class? : Char → Bool} {run rest : List Char}
    (hrun : ∀ c ∈ run, class? c = true) (hrest : Ends class? rest) :
    (run ++ rest).takeWhile class? = run := by
  rw [List.takeWhile_append_of_pos hrun]
  cases rest with
  | nil => simp
  | cons c rest => rw [List.takeWhile_cons_of_neg (by simp [hrest c rfl]), List.append_nil]

/-- A run of characters of a class ends where the class ends, and nowhere else. -/
theorem append_inj_of_run {class? : Char → Bool} {first second rest rest' : List Char}
    (hfirst : ∀ c ∈ first, class? c = true) (hsecond : ∀ c ∈ second, class? c = true)
    (hrest : Ends class? rest) (hrest' : Ends class? rest')
    (heq : first ++ rest = second ++ rest') : first = second ∧ rest = rest' := by
  have hruns : first = second := by
    rw [← takeWhile_run hfirst hrest, heq, takeWhile_run hsecond hrest']
  subst hruns
  exact ⟨rfl, List.append_cancel_left heq⟩

end GraphQuery.Text
