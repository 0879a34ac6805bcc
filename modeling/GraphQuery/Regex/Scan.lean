import GraphQuery.Text.Character
import GraphQuery.Text.Digits

namespace GraphQuery

namespace Regex

/-- Drops white space, and comments up to the end of their line. The flag tells whether a comment
    has begun. -/
def dropBlank : Bool → List Char → List Char
  | _, [] => []
  | true, c :: rest => dropBlank (c != '\n') rest
  | false, c :: rest =>
    if Text.isBlankChar c then dropBlank false rest
    else if c = '#' then dropBlank true rest
    else c :: rest

/-- What is left after white space and comments, which only a verbose pattern may hold. -/
def skip (isVerbose : Bool) (s : List Char) : List Char :=
  if isVerbose then dropBlank false s else s

/-- What is left after one character and what may be skipped behind it. -/
def advance (isVerbose : Bool) (s : List Char) : List Char :=
  skip isVerbose (s.drop 1)

/-- Collects the characters up to a closing brace, without what may be skipped among them. There has
    to be a closing brace. The second flag tells whether a comment has begun. -/
def takeBraced? (isVerbose : Bool) : Bool → List Char → Option (List Char × List Char)
  | _, [] => none
  | true, c :: rest => takeBraced? isVerbose (c != '\n') rest
  | false, c :: rest =>
    if isVerbose && Text.isBlankChar c then takeBraced? isVerbose false rest
    else if isVerbose && c = '#' then takeBraced? isVerbose true rest
    else if c = '\x7d' then some ([], rest)
    else (takeBraced? isVerbose false rest).map fun (text, rest) => (c :: text, rest)

/-- Collects decimal digits, without what may be skipped among them. -/
def takeDigits (isVerbose : Bool) : Bool → List Char → List Char × List Char
  | _, [] => ([], [])
  | true, c :: rest => takeDigits isVerbose (c != '\n') rest
  | false, c :: rest =>
    if c.isDigit then
      let (digits, rest) := takeDigits isVerbose false rest
      (c :: digits, rest)
    else if isVerbose && Text.isBlankChar c then takeDigits isVerbose false rest
    else if isVerbose && c = '#' then takeDigits isVerbose true rest
    else ([], c :: rest)

/-- Reads a decimal number of 32 bits, with white space around it. -/
def takeCount? (isVerbose : Bool) (s : List Char) : Option (Nat × List Char) :=
  let (digits, rest) := takeDigits isVerbose false (s.dropWhile Text.isBlankChar)
  let count := Text.ofDecimal digits
  if digits.isEmpty || 0xffffffff < count then none
  else some (count, rest.dropWhile Text.isBlankChar)

/-- Reads a fixed number of hexadecimal digits. What may be skipped among them is. -/
def takeHexDigits? (isVerbose : Bool) : Nat → List Char → Option (List Char × List Char)
  | 0, s => some ([], s)
  | _ + 1, [] => none
  | count + 1, c :: rest => do
    let _ ← Text.hexValue? c
    let (digits, rest) ← takeHexDigits? isVerbose count (skip isVerbose rest)
    return (c :: digits, rest)

/-- The character of a code point in hexadecimal, if it is one that texts can hold. -/
def charOfHex? (digits : List Char) : Option Char := do
  let code ← Text.ofHex? digits
  if digits.isEmpty || 0x10ffff < code || (0xd800 ≤ code && code ≤ 0xdfff) then none
  else some (Char.ofNat code)

end Regex

end GraphQuery
