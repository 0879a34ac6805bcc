import GraphQuery.Proofs.Name.Written
import GraphQuery.Proofs.Text.Hex

namespace GraphQuery

namespace Text

/-- The character that a backslash and the one behind it stand for within a literal. -/
def unescaped? : Char → Option Char
  | '\\' => some '\\'
  | '\'' => some '\''
  | 'n' => some '\n'
  | 'r' => some '\r'
  | 't' => some '\t'
  | _ => none

/-- The character whose code is spelled in hexadecimal. -/
def ofCode? (digits : List Char) : Option Char := do
  let code ← ofHex? digits
  if code.isValidChar then some (Char.ofNat code) else none

/-- What a literal goes on with up to its closing quote, and the text behind that quote. -/
def literalRest? : List Char → Option (List Char × List Char)
  | [] => none
  | '\'' :: text => some ([], text)
  | '\\' :: 'u' :: a :: b :: c :: d :: text => do
    let char ← ofCode? [a, b, c, d]
    let (chars, rest) ← literalRest? text
    return (char :: chars, rest)
  | '\\' :: letter :: text => do
    let char ← unescaped? letter
    let (chars, rest) ← literalRest? text
    return (char :: chars, rest)
  | ['\\'] => none
  | char :: text => do
    let (chars, rest) ← literalRest? text
    return (char :: chars, rest)

/-- The text that a literal between single quotes stands for, and the text behind the literal. -/
def literal? : List Char → Option (String × List Char)
  | '\'' :: text => do
    let (chars, rest) ← literalRest? text
    return (String.ofList chars, rest)
  | _ => none

theorem ofCode?_hex (width : Nat) (c : Char) : ofCode? (hex width c.toNat) = some c := by
  simp [ofCode?, ofHex?_hex, show c.toNat.isValidChar from c.valid]

/-- The codes of control characters have at most two digits. -/
theorem toNat_lt_of_isControl {c : Char} (hcontrol : isControl c = true) : c.toNat < 16 ^ 4 := by
  simp only [isControl, Bool.or_eq_true, Bool.and_eq_true, decide_eq_true_eq] at hcontrol
  omega

/-- A character is read back from what is written for it between quotes. -/
theorem literalRest?_escapeQuoted {c : Char} {chars text rest : List Char}
    (hread : literalRest? text = some (chars, rest)) :
    literalRest? (escapeQuoted c ++ text) = some (c :: chars, rest) := by
  unfold escapeQuoted
  split
  · simp [literalRest?, unescaped?, hread]
  · simp [literalRest?, unescaped?, hread]
  · simp [literalRest?, unescaped?, hread]
  · simp [literalRest?, unescaped?, hread]
  · simp [literalRest?, unescaped?, hread]
  · rename_i hbackslash _ _ _ _
    split
    · rename_i hcontrol
      have hlength : (hex 4 c.toNat).length = 4 :=
        length_hex (by decide) (toNat_lt_of_isControl hcontrol)
      match hdigits : hex 4 c.toNat, hlength with
      | [d₁, d₂, d₃, d₄], _ =>
        have hcode : ofCode? [d₁, d₂, d₃, d₄] = some c := hdigits ▸ ofCode?_hex 4 c
        simp [literalRest?, hcode, hread]
    · simp [literalRest?, hread, show c ≠ '\\' from hbackslash]

theorem literalRest?_flatMap (chars rest : List Char) :
    literalRest? (chars.flatMap escapeQuoted ++ '\'' :: rest) = some (chars, rest) := by
  induction chars with
  | nil => simp [literalRest?]
  | cons c chars ih =>
    rw [List.flatMap_cons, List.append_assoc]
    exact literalRest?_escapeQuoted ih

/-- A literal is read back, and the reader stops right behind it. -/
theorem literal?_quoted (s : String) (rest : List Char) :
    literal? ((quoted s).toList ++ rest) = some (s, rest) := by
  have hbody := literalRest?_flatMap s.toList rest
  simp [quoted, literal?, hbody]

end Text

/-- No text breaks out of its quotes. Whatever follows a literal, it is read as the text it was
    written for and up to its end, and so is a name that is not followed by what would go on with
    it. -/
theorem read_quoted_and_written :
    (∀ (s : String) (rest : List Char),
      Text.literal? ((Text.quoted s).toList ++ rest) = some (s, rest)) ∧
    ∀ (component name : String) (rest : List Char),
      name ≠ "" → Text.Ends Name.continues rest →
        ∃ text, Name.write component name = .ok text ∧
          Name.leading? (text.toList ++ rest) = some (name, rest) := by
  refine ⟨Text.literal?_quoted, fun component name rest hne hrest => ?_⟩
  exact ⟨Name.written name, Name.write_of_ne_empty component hne, Name.leading?_written name hrest⟩

/-- A text that would close its literal is read back as it is, and so is a name that ends in a
    back-quote. -/
theorem read_closing_quotes :
    Text.literal? ((Text.quoted "\\' \u0085u0000").toList ++ "' RETURN 1".toList) =
        some ("\\' \u0085u0000", "' RETURN 1".toList) ∧
      "a``" ≠ "" ∧ Text.Ends Name.continues " RETURN 1".toList ∧
      ∃ text, Name.write "match" "a``" = .ok text ∧
        Name.leading? (text.toList ++ " RETURN 1".toList) =
          some ("a``", " RETURN 1".toList) := by
  have hends : Text.Ends Name.continues " RETURN 1".toList := by
    intro c hmem
    obtain rfl : ' ' = c := by simpa using hmem
    decide
  exact ⟨read_quoted_and_written.1 _ _, by decide, hends,
    read_quoted_and_written.2 "match" "a``" _ (by decide) hends⟩

end GraphQuery
