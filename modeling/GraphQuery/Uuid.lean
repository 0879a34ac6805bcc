import GraphQuery.Text.Digits

namespace GraphQuery

/-- A universally unique identifier, as its thirty-two hexadecimal digits. -/
structure Uuid where
  digits : List (Fin 16)
  length_digits : digits.length = 32
  deriving DecidableEq

namespace Uuid

/-- Reads thirty-two hexadecimal digits of either case. -/
def ofHex? (s : List Char) : Option Uuid := do
  let digits ← s.mapM fun c => do
    let value ← Text.hexValue? c
    if h : value < 16 then some (⟨value, h⟩ : Fin 16) else none
  if h : digits.length = 32 then some ⟨digits, h⟩ else none

/-- Reads groups of 8, 4, 4, 4 and 12 digits that are separated by hyphens. -/
def ofHyphenated? (s : List Char) : Option Uuid :=
  match s.drop 8, s.drop 13, s.drop 18, s.drop 23 with
  | '-' :: second, '-' :: third, '-' :: fourth, '-' :: fifth =>
    ofHex? (s.take 8 ++ second.take 4 ++ third.take 4 ++ fourth.take 4 ++ fifth)
  | _, _, _, _ => none

/-- Reads an identifier in one of four forms: the bare digits, the hyphenated groups, and these
    between braces or after the `urn:uuid:` scheme in any case. -/
def read? (s : String) : Option Uuid :=
  let s := s.toList
  match s with
  | '\x7b' :: rest => if rest.getLast? = some '\x7d' then ofHyphenated? rest.dropLast else none
  | _ =>
    if s.length = 32 then ofHex? s
    else if (s.take 9).map Char.toLower = "urn:uuid:".toList then ofHyphenated? (s.drop 9)
    else ofHyphenated? s

/-- The lower-case hyphenated form. -/
def text (u : Uuid) : String :=
  let s := u.digits.map fun d => Nat.digitChar d.val
  String.ofList <| s.take 8 ++ '-' :: (s.drop 8).take 4 ++ '-' :: (s.drop 12).take 4 ++
    '-' :: (s.drop 16).take 4 ++ '-' :: s.drop 20

end Uuid

end GraphQuery
