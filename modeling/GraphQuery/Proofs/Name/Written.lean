import GraphQuery.Proofs.Statement.Reading
import GraphQuery.Proofs.Text.Run

namespace GraphQuery

namespace Name

/-- Whether a written name may go on with a character: outside of back-quotes with a part of a name,
    and behind back-quotes with another one, which would be doubled with the last. -/
def continues (c : Char) : Bool :=
  isPart c || c = '\x60'

theorem ends_isPart_of_continues {text : List Char} (hends : Text.Ends continues text) :
    Text.Ends isPart text := by
  intro c hmem
  have hcontinues := hends c hmem
  rw [continues, Bool.or_eq_false_iff] at hcontinues
  exact hcontinues.1

theorem write_of_ne_empty {name : String} (component : String) (hne : name ≠ "") :
    write component name = .ok (written name) := by
  rw [write, if_neg (by simpa using hne)]

/-- What a name between back-quotes goes on with, and the text behind its closing back-quote. A
    doubled back-quote stands for one of the name. -/
def backQuotedRest? : List Char → Option (List Char × List Char)
  | [] => none
  | '\x60' :: '\x60' :: text => do
    let (chars, rest) ← backQuotedRest? text
    return ('\x60' :: chars, rest)
  | '\x60' :: text => some ([], text)
  | char :: text => do
    let (chars, rest) ← backQuotedRest? text
    return (char :: chars, rest)

/-- The name that a text begins with, and the text behind it. The name stands between back-quotes,
    or else it is the longest identifier there. -/
def leading? : List Char → Option (String × List Char)
  | '\x60' :: text => do
    let (chars, rest) ← backQuotedRest? text
    return (String.ofList chars, rest)
  | text => do
    let name ← Statement.leadingName? text
    return (name, text.dropWhile isPart)

theorem backQuotedRest?_flatMap (chars : List Char) {rest : List Char}
    (hrest : Text.Ends continues rest) :
    backQuotedRest?
      (chars.flatMap (fun c => if c = '\x60' then [c, c] else [c]) ++ '\x60' :: rest) =
        some (chars, rest) := by
  induction chars with
  | nil =>
    cases rest with
    | nil => simp [backQuotedRest?]
    | cons c rest =>
      -- A back-quote behind the closing one would be taken for a part of the name.
      have hback : c ≠ '\x60' := by
        rintro rfl
        exact absurd (hrest '\x60' rfl) (by decide)
      simp [backQuotedRest?, hback]
  | cons c chars ih =>
    rw [List.flatMap_cons, List.append_assoc]
    split
    · rename_i hback
      simp [hback, backQuotedRest?, ih]
    · rename_i hback
      simp [hback, backQuotedRest?, ih]

theorem leading?_backQuoted (name : String) {rest : List Char}
    (hrest : Text.Ends continues rest) :
    leading? ((backQuoted name).toList ++ rest) = some (name, rest) := by
  have hbody := backQuotedRest?_flatMap name.toList hrest
  simp [backQuoted, leading?, hbody]

/-- An identifier is read as far as parts of a name go. -/
theorem leading?_of_isIdentifier {name : String} (hname : isIdentifier name = true)
    {rest : List Char} (hrest : Text.Ends isPart rest) :
    leading? (name.toList ++ rest) = some (name, rest) := by
  have hread := Statement.leadingName?_append hname hrest
  have hdrop := Statement.dropWhile_append_of_isIdentifier hname hrest
  obtain ⟨c, parts, hcons, hstart, _⟩ := isIdentifier_iff.mp hname
  rw [hcons, List.cons_append] at hread hdrop ⊢
  have hback : c ≠ '\x60' := by
    rintro rfl
    exact absurd hstart (by decide)
  simp [leading?, hback, hread, hdrop]

/-- A name is read back from what is written for it. -/
theorem leading?_written (name : String) {rest : List Char} (hrest : Text.Ends continues rest) :
    leading? ((written name).toList ++ rest) = some (name, rest) := by
  unfold written
  split
  · rename_i hname
    exact leading?_of_isIdentifier hname (ends_isPart_of_continues hrest)
  · exact leading?_backQuoted name hrest

theorem identifier_append_inj {name name' : String} {rest rest' : List Char}
    (hname : isIdentifier name = true) (hname' : isIdentifier name' = true)
    (hrest : Text.Ends isPart rest) (hrest' : Text.Ends isPart rest')
    (heq : name.toList ++ rest = name'.toList ++ rest') : name = name' ∧ rest = rest' := by
  have hread := leading?_of_isIdentifier hname hrest
  rw [heq, leading?_of_isIdentifier hname' hrest'] at hread
  cases hread
  exact ⟨rfl, rfl⟩

/-- A name can be told from what is written for it and followed by something else. -/
theorem written_append_inj {name name' : String} {rest rest' : List Char}
    (hrest : Text.Ends continues rest) (hrest' : Text.Ends continues rest')
    (heq : (written name).toList ++ rest = (written name').toList ++ rest') :
    name = name' ∧ rest = rest' := by
  have hread := leading?_written name hrest
  rw [heq, leading?_written name' hrest'] at hread
  cases hread
  exact ⟨rfl, rfl⟩

end Name

end GraphQuery
