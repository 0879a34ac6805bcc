import GraphQuery.Text.Digits

namespace GraphQuery.Text

/-- The items one after the other, with a comma and a space between any two. -/
def commaJoin (items : List String) : String :=
  ", ".intercalate items

/-- Replaces every occurrence of a pattern, found from left to right without overlap. An empty
    pattern is treated as if it took up one character. -/
def replaceAll (pattern replacement : List Char) : List Char → List Char
  | [] => []
  | c :: rest =>
    if pattern.isPrefixOf (c :: rest) then
      replacement ++ replaceAll pattern replacement (rest.drop (pattern.length - 1))
    else
      c :: replaceAll pattern replacement rest
termination_by s => s.length
decreasing_by
  · simp only [List.length_drop, List.length_cons]; omega
  · simp only [List.length_cons]; omega

/-- Whether a character is a control character: the C0 range, delete and the C1 range. -/
def isControl (c : Char) : Bool :=
  c.toNat < 0x20 || (0x7f ≤ c.toNat && c.toNat ≤ 0x9f)

/-- A character as it is written between single quotes. The backslash, the quote and the three
    common line controls have a two-character escape, any other control character `\u` and four
    hexadecimal digits; everything else stands for itself. -/
def escapeQuoted (c : Char) : List Char :=
  match c with
  | '\\' => ['\\', '\\']
  | '\'' => ['\\', '\'']
  | '\n' => ['\\', 'n']
  | '\r' => ['\\', 'r']
  | '\t' => ['\\', 't']
  | c => if isControl c then '\\' :: 'u' :: hex 4 c.toNat else [c]

/-- A text as a single-quoted literal. -/
def quoted (s : String) : String :=
  "'" ++ String.ofList (s.toList.flatMap escapeQuoted) ++ "'"

end GraphQuery.Text
