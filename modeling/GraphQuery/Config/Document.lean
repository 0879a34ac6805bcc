import GraphQuery.Text.Digits

namespace GraphQuery

/-- The text of a JSON document as far as settings can be read from it. What is neither a string nor
    made of parts is not told apart. A string is missing where it holds one half of a surrogate
    pair, which is a mistake only in a string that is used. -/
inductive Document where
  | other
  | string (s : Option String)
  | array (items : List Document)
  | object (members : List (Option String × Document))

namespace Document

/-- The white space between tokens. -/
def isSpace (c : Char) : Bool :=
  c = ' ' || c = '\n' || c = '\t' || c = '\r'

/-- A text from its next token on. -/
def skip (s : List Char) : List Char :=
  s.dropWhile isSpace

/-- The character that an escape of one letter stands for. -/
def escaped? : Char → Option Char
  | '"' => some '"'
  | '\\' => some '\\'
  | '/' => some '/'
  | 'b' => some '\x08'
  | 'f' => some '\x0c'
  | 'n' => some '\n'
  | 'r' => some '\r'
  | 't' => some '\t'
  | _ => none

/-- The characters of a string up to its closing quote, and what follows. An escape by number gives
    a code unit, which need not be a character of its own. -/
def takeUnits? : List Char → Option (List (Char ⊕ Nat) × List Char)
  | [] => none
  | '"' :: rest => some ([], rest)
  | '\\' :: 'u' :: a :: b :: c :: d :: rest => do
    let unit ← Text.ofHex? [a, b, c, d]
    let (units, rest) ← takeUnits? rest
    return (.inr unit :: units, rest)
  | '\\' :: c :: rest => do
    let c ← escaped? c
    let (units, rest) ← takeUnits? rest
    return (.inl c :: units, rest)
  | c :: rest =>
    if c < ' ' then none
    else do
      let (units, rest) ← takeUnits? rest
      return (.inl c :: units, rest)

/-- The text that characters and code units make up. Code units of surrogates have to come in
    pairs. -/
def joinUnits? : List (Char ⊕ Nat) → Option (List Char)
  | [] => some []
  | .inl c :: rest => do return c :: (← joinUnits? rest)
  | .inr unit :: rest =>
    if unit < 0xd800 ∨ 0xe000 ≤ unit then do return Char.ofNat unit :: (← joinUnits? rest)
    else match rest with
      | .inr low :: rest =>
        if unit < 0xdc00 ∧ 0xdc00 ≤ low ∧ low < 0xe000 then do
          let c := Char.ofNat (0x10000 + (unit - 0xd800) * 0x400 + (low - 0xdc00))
          return c :: (← joinUnits? rest)
        else none
      | _ => none

/-- Reads a string after its opening quote. -/
def takeString? (s : List Char) : Option (Option String × List Char) := do
  let (units, rest) ← takeUnits? s
  return ((joinUnits? units).map String.ofList, rest)

/-- Skips decimal digits, of which there has to be one. -/
def skipDigits? (s : List Char) : Option (List Char) :=
  if s.head?.any Char.isDigit then some (s.dropWhile Char.isDigit) else none

/-- Skips a whole number, which has no zeros in front. -/
def skipWhole? : List Char → Option (List Char)
  | '0' :: rest => if rest.head?.any Char.isDigit then none else some rest
  | s => skipDigits? s

/-- Skips a number after its sign. -/
def skipNumber? (s : List Char) : Option (List Char) := do
  let s ← skipWhole? s
  let s ← match s with
    | '.' :: rest => skipDigits? rest
    | _ => some s
  match s with
  | 'e' :: rest | 'E' :: rest =>
    match rest with
    | '+' :: rest | '-' :: rest => skipDigits? rest
    | _ => skipDigits? rest
  | _ => some s

/-- Skips a word or a number. -/
def skipOther? : List Char → Option (List Char)
  | 'n' :: 'u' :: 'l' :: 'l' :: rest => some rest
  | 't' :: 'r' :: 'u' :: 'e' :: rest => some rest
  | 'f' :: 'a' :: 'l' :: 's' :: 'e' :: rest => some rest
  | '-' :: rest => skipNumber? rest
  | s => skipNumber? s

mutual

/-- Reads a document, at most `fuel` calls deep. -/
def take? : (fuel : Nat) → List Char → Option (Document × List Char)
  | 0, _ => none
  | fuel + 1, s =>
    match skip s with
    | '"' :: rest => do
      let (text, rest) ← takeString? rest
      return (.string text, rest)
    | '[' :: rest =>
      match skip rest with
      | ']' :: rest => some (.array [], rest)
      | rest => do
        let (items, rest) ← takeItems? fuel rest
        return (.array items, rest)
    | '\x7b' :: rest =>
      match skip rest with
      | '\x7d' :: rest => some (.object [], rest)
      | rest => do
        let (members, rest) ← takeMembers? fuel rest
        return (.object members, rest)
    | s => do return (.other, ← skipOther? s)

/-- Reads the items of an array up to its closing bracket. -/
def takeItems? : (fuel : Nat) → List Char → Option (List Document × List Char)
  | 0, _ => none
  | fuel + 1, s => do
    let (item, rest) ← take? fuel s
    match skip rest with
    | ',' :: rest => do
      let (items, rest) ← takeItems? fuel rest
      return (item :: items, rest)
    | ']' :: rest => return ([item], rest)
    | _ => none

/-- Reads the members of an object up to its closing brace. -/
def takeMembers? : (fuel : Nat) → List Char →
    Option (List (Option String × Document) × List Char)
  | 0, _ => none
  | fuel + 1, s =>
    match skip s with
    | '"' :: rest => do
      let (name, rest) ← takeString? rest
      match skip rest with
      | ':' :: rest => do
        let (member, rest) ← take? fuel rest
        match skip rest with
        | ',' :: rest => do
          let (members, rest) ← takeMembers? fuel rest
          return ((name, member) :: members, rest)
        | '\x7d' :: rest => return ([(name, member)], rest)
        | _ => none
      | _ => none
    | _ => none

end

/-- Reads a text that is one document. A call that consumes nothing is followed by one that consumes
    a character, so that the calls are never deeper than twice the length of the text. -/
def read? (text : String) : Option Document :=
  let s := text.toList
  match take? (2 * s.length + 2) s with
  | some (document, rest) => if (skip rest).isEmpty then some document else none
  | none => none

end Document

end GraphQuery
