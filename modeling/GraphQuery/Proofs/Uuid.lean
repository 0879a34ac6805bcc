import GraphQuery.Uuid
import Mathlib.Data.List.TakeDrop

namespace GraphQuery

namespace Uuid

/-- The lower-case digits of an identifier. -/
theorem ofHex?_digits (u : Uuid) :
    ofHex? (u.digits.map fun d => Nat.digitChar d.val) = some u := by
  have hdigit : ∀ d : Fin 16, (do
      let value ← Text.hexValue? (Nat.digitChar d.val)
      if h : value < 16 then some (⟨value, h⟩ : Fin 16) else none) = some d := by
    decide
  have hdigits : ∀ digits : List (Fin 16),
      (digits.map fun d => Nat.digitChar d.val).mapM (fun c => do
      let value ← Text.hexValue? c
      if h : value < 16 then some (⟨value, h⟩ : Fin 16) else none) = some digits := by
    intro digits
    induction digits with
    | nil => rfl
    | cons d digits ih =>
      rw [List.map_cons, List.mapM_cons, hdigit, ih]
      rfl
  rw [ofHex?, hdigits]
  exact dif_pos u.length_digits

/-- Hyphenated groups are read like their digits without the hyphens. -/
theorem ofHyphenated?_groups {first second third fourth fifth : List Char}
    (hfirst : first.length = 8) (hsecond : second.length = 4) (hthird : third.length = 4)
    (hfourth : fourth.length = 4) :
    ofHyphenated? (first ++ '-' :: second ++ '-' :: third ++ '-' :: fourth ++ '-' :: fifth) =
      ofHex? (first ++ second ++ third ++ fourth ++ fifth) := by
  have hfirstDrop : ∀ more, 8 ≤ more → first.drop more = [] := fun more hmore =>
    List.drop_eq_nil_of_le (by omega)
  have hsecondDrop : ∀ more, 4 ≤ more → second.drop more = [] := fun more hmore =>
    List.drop_eq_nil_of_le (by omega)
  have hthirdDrop : third.drop 9 = [] := List.drop_eq_nil_of_le (by omega)
  simp [ofHyphenated?, List.drop_append, hfirst, hsecond, hthird, hfourth, hfirstDrop, hsecondDrop,
    hthirdDrop]

/-- An identifier is read back from its text. -/
theorem read?_text (u : Uuid) : read? u.text = some u := by
  have hother : ∀ d : Fin 16, Nat.digitChar d.val ≠ '\x7b' ∧
      (Nat.digitChar d.val).toLower ≠ 'u' := by
    decide
  let digits := u.digits.map fun d => Nat.digitChar d.val
  have hlength : digits.length = 32 := by rw [List.length_map, u.length_digits]
  have htext : u.text.toList = digits.take 8 ++ '-' :: (digits.drop 8).take 4 ++
      '-' :: (digits.drop 12).take 4 ++ '-' :: (digits.drop 16).take 4 ++
        '-' :: digits.drop 20 := by
    rw [text, String.toList_ofList]
  have hgroup : ∀ n count,
      (digits.drop n).take count ++ digits.drop (n + count) = digits.drop n := by
    intro n count
    rw [← List.drop_drop, List.take_append_drop]
  have hhyphenated : ofHyphenated? u.text.toList = some u := by
    rw [htext, ofHyphenated?_groups (by simp [hlength]) (by simp [hlength]) (by simp [hlength])
      (by simp [hlength])]
    simp only [List.append_assoc]
    rw [hgroup 16 4, hgroup 12 4, hgroup 8 4, List.take_append_drop]
    exact ofHex?_digits u
  -- The text begins with a digit, so that it is none of the other forms.
  obtain ⟨d, rest, hrest⟩ :
      ∃ (d : Fin 16) (rest : List Char), u.text.toList = Nat.digitChar d.val :: rest := by
    cases hdigits : u.digits with
    | nil => simp [digits, hdigits] at hlength
    | cons d more =>
      rw [htext]
      simp only [digits, hdigits, List.map_cons, List.take_succ_cons, List.cons_append]
      exact ⟨d, _, rfl⟩
  have hlong : u.text.toList.length ≠ 32 := by
    simp [htext, hlength]
  unfold read?
  dsimp only
  split
  · rename_i hbrace
    rw [hrest] at hbrace
    exact absurd (List.cons.inj hbrace).1 (hother d).1
  · rw [if_neg hlong, if_neg, hhyphenated]
    intro hurn
    rw [hrest] at hurn
    exact (hother d).2 (List.cons.inj hurn).1

end Uuid

end GraphQuery
