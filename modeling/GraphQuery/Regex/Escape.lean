import GraphQuery.Regex.Property
import GraphQuery.Regex.Scan

namespace GraphQuery

namespace Regex

/-- One element of a pattern that is not composed of others. A literal knows whether it was given as
    a byte, and a class its only character or how many runs of characters it has, roughly. -/
inductive Atom where
  | literal (c : Char) (isByte : Bool)
  | assertion
  | anyChar
  | single (c : Char)
  | runs (count : Nat)

/-- The characters with a meaning of their own, which a backslash takes away. -/
def isMeta (c : Char) : Bool :=
  "\\.+*?()|[]\x7b\x7d^$#&-~".toList.contains c

/-- Whether a backslash before a character leaves it as it is: a character with a meaning, or any
    other ASCII character that is neither a letter, nor a digit, nor an angle bracket. -/
def isEscapable (c : Char) : Bool :=
  isMeta c || (c.toNat < 0x80 && !c.isAlphanum && c != '<' && c != '>')

/-- The control character that a letter after a backslash stands for. -/
def control? : Char → Option Char
  | 'a' => some '\x07'
  | 'f' => some '\x0c'
  | 't' => some '\t'
  | 'n' => some '\n'
  | 'r' => some '\r'
  | 'v' => some '\x0b'
  | _ => none

/-- The number of runs of the classes of digits, blanks and word characters, in Unicode. -/
def perlRuns (c : Char) : Nat :=
  match c.toLower with
  | 'd' => 71
  | 's' => 10
  | _ => 770

/-- Reads a code point after `x`, `u` or `U`, as two, four or eight digits or between braces. -/
def takeCodePoint? (isVerbose : Bool) (letter : Char) (s : List Char) :
    Option (Atom × List Char) := do
  let s := skip isVerbose s
  match s with
  | '\x7b' :: rest =>
    let (digits, rest) ← takeBraced? isVerbose false rest
    let c ← charOfHex? digits
    return (.literal c false, skip isVerbose rest)
  | _ =>
    let width := if letter = 'x' then 2 else if letter = 'u' then 4 else 8
    let (digits, rest) ← takeHexDigits? isVerbose width s
    let c ← charOfHex? digits
    return (.literal c (letter = 'x'), rest)

/-- Reads the name of a property class, as one letter or between braces. A class that is not the
    complement of one may have a single character. -/
def takeProperty? (isVerbose isUnicode isNegated : Bool) (s : List Char) :
    Option (Atom × List Char) := do
  let (text, rest) ← match skip isVerbose s with
    | [] => none
    | '\x7b' :: rest => takeBraced? isVerbose false rest
    | '\\' :: _ => none
    | c :: rest => some ([c], skip isVerbose rest)
  if !isUnicode || !Property.isKnown text then none
  else
    match Property.only? text with
    | some c => if isNegated then return (.runs 2, rest) else return (.single c, rest)
    | none => return (.runs 300, rest)

/-- Reads what may follow the mark of a word boundary: a kind of boundary between braces. A brace
    that does not begin with a letter or a hyphen is left to be read as a repetition. -/
def takeBoundaryKind? (isVerbose : Bool) (s : List Char) : Option (List Char) :=
  match s with
  | '\x7b' :: rest =>
    match skip isVerbose rest with
    | [] => none
    | c :: rest' =>
      if c.isAlpha || c = '-' then
        match takeBraced? isVerbose false (c :: rest') with
        | none => none
        | some (kind, rest) =>
          if ["start", "end", "start-half", "end-half"].contains (String.ofList kind) then some rest
          else none
      else some s
  | _ => some s

/-- Reads what follows a backslash. Without Unicode, the complement of a class of characters could
    match a part of a character, and is refused. -/
def takeEscape? (isVerbose isUnicode : Bool) (s : List Char) : Option (Atom × List Char) :=
  match s with
  | [] => none
  | c :: rest =>
    if c = 'x' || c = 'u' || c = 'U' then takeCodePoint? isVerbose c rest
    else if c = 'p' || c = 'P' then takeProperty? isVerbose isUnicode (c = 'P') rest
    else if "dsw".toList.contains c then some (.runs (if isUnicode then perlRuns c else 3), rest)
    else if "DSW".toList.contains c then
      if isUnicode then some (.runs (perlRuns c), rest) else none
    else if isEscapable c then some (.literal c false, rest)
    else if c = 'b' then (takeBoundaryKind? isVerbose rest).map fun rest => (.assertion, rest)
    else if "AzB<>".toList.contains c then some (.assertion, rest)
    else (control? c).map fun control => (.literal control false, rest)

end Regex

end GraphQuery
