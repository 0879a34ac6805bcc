import GraphQuery.Name
import GraphQuery.Regex.Class

namespace GraphQuery

namespace Regex

/-- What a part of a pattern amounts to: how deeply it is nested, how large the program is that
    matches it, whether it matches nothing but the empty text, and whether it is no more than a
    switch of modes. -/
structure Piece where
  depth : Nat
  size : Nat
  isEmpty : Bool := false
  isSwitch : Bool := false

namespace Piece

/-- The size of one state of a program. -/
def stateSize : Nat := 32

/-- The size of one run of characters of a class. -/
def runSize : Nat := 60

/-- The size of pieces together. -/
def total (pieces : List Piece) : Nat :=
  pieces.foldl (fun sum piece => sum + piece.size) 0

/-- The depth of the most deeply nested of pieces. -/
def deepest (pieces : List Piece) : Nat :=
  pieces.foldl (fun most piece => max most piece.depth) 0

/-- One element. -/
def ofAtom : Atom → Piece
  | .literal c _ | .single c => ⟨0, stateSize * c.utf8Size, false, false⟩
  | .assertion => ⟨0, stateSize, true, false⟩
  | .anyChar => ⟨0, runSize * 10, false, false⟩
  | .runs count => ⟨0, runSize * count, false, false⟩

/-- Pieces one after the other. -/
def concat : List Piece → Piece
  | [] => ⟨0, stateSize, true, false⟩
  | [piece] => piece
  | pieces =>
    ⟨1 + deepest pieces, total pieces, pieces.all isEmpty, false⟩

/-- A choice between pieces. -/
def choice : List Piece → Piece
  | [piece] => piece
  | pieces =>
    ⟨1 + deepest pieces, stateSize + total pieces + 4 * pieces.length, pieces.all isEmpty, false⟩

/-- A piece between parentheses. -/
def group (isCapture : Bool) (piece : Piece) : Piece :=
  ⟨1 + piece.depth, piece.size + (if isCapture then 2 * stateSize else 0), piece.isEmpty, false⟩

/-- A piece a number of times, of which the least and the greatest are given. A repetition of what
    is empty is tried once at most. -/
def repeated (least : Nat) (greatest : Option Nat) (piece : Piece) : Piece :=
  let bound (count : Nat) := if piece.isEmpty then min count 1 else count
  let optional := piece.size + stateSize + 8
  let size := match greatest with
    | none => bound least * piece.size + optional
    | some greatest => bound least * piece.size + (bound greatest - bound least) * optional
  ⟨1 + piece.depth, size, piece.isEmpty || greatest = some 0, false⟩

end Piece

/-- A group that is being read: the choices before the current one, and the pieces of the current
    one, both with the latest first. -/
structure Level where
  choices : List Piece := []
  pieces : List Piece := []

namespace Level

/-- The level with one more piece. -/
def push (level : Level) (piece : Piece) : Level :=
  { level with pieces := piece :: level.pieces }

/-- The level after a bar. -/
def nextChoice (level : Level) : Level :=
  ⟨.concat level.pieces :: level.choices, []⟩

/-- What the level amounts to when it ends. -/
def piece (level : Level) : Piece :=
  .choice (.concat level.pieces :: level.choices)

end Level

/-- The reader between two elements of a pattern. A group around the current one keeps the modes to
    go back to and whether it captures what it matches. -/
structure Reader where
  mode : Mode := {}
  level : Level := {}
  outer : List (Level × Mode × Bool) := []
  names : List String := []

namespace Reader

/-- The reader with one more piece. -/
def push (reader : Reader) (piece : Piece) : Reader :=
  { reader with level := reader.level.push piece }

/-- The reader with the piece it has read last replaced, which must be one that can be repeated. -/
def repeatLast? (reader : Reader) (least : Nat) (greatest : Option Nat) : Option Reader :=
  match reader.level.pieces with
  | [] => none
  | last :: pieces =>
    if last.isSwitch then none
    else some { reader with
      level := { reader.level with pieces := last.repeated least greatest :: pieces } }

/-- The reader inside a new group. -/
def enter (reader : Reader) (isCapture : Bool) (mode : Mode) : Reader :=
  { reader with
    mode := mode, level := {}, outer := (reader.level, reader.mode, isCapture) :: reader.outer }

/-- The reader behind the end of a group. -/
def leave? (reader : Reader) : Option Reader :=
  match reader.outer with
  | [] => none
  | (level, mode, isCapture) :: outer =>
    some { reader with mode, level := level.push (reader.level.piece.group isCapture), outer }

end Reader

/-- Reads switches of modes up to a colon or a parenthesis, which is given back with them. Modes
    after a hyphen are turned off; there is one hyphen at most, and something after it, and no mode
    is named twice. -/
def takeSwitches? (seen : List Char) (mode : Mode) :
    List Char → Option (List Char × Mode × List Char)
  | [] => none
  | c :: rest =>
    if c = ':' || c = ')' then
      if seen.head? = some '-' then none else some (seen, mode, c :: rest)
    else if seen.contains c then none
    else if c = '-' then takeSwitches? (c :: seen) mode rest
    else if c = 'x' then
      takeSwitches? (c :: seen) { mode with isVerbose := !seen.contains '-' } rest
    else if c = 'u' then
      takeSwitches? (c :: seen) { mode with isUnicode := !seen.contains '-' } rest
    else if "imsUR".toList.contains c then takeSwitches? (c :: seen) mode rest
    else none

/-- Whether the name of a group may hold a character, at its beginning or behind it. -/
def isGroupNameChar (isFirst : Bool) (c : Char) : Bool :=
  c = '_' || if isFirst then Text.isAlphabetic c
    else Name.isAlphanumeric c || c = '.' || c = '[' || c = ']'

/-- Reads the name of a group up to its closing bracket. No two groups may share a name. -/
def takeGroupName? (names : List String) (s : List Char) : Option (String × List Char) :=
  let name := s.takeWhile (· != '>')
  match name, s.drop name.length with
  | first :: others, '>' :: rest =>
    let isName := isGroupNameChar true first && others.all (isGroupNameChar false)
    if isName && !names.contains (String.ofList name) then some (String.ofList name, rest) else none
  | _, _ => none

/-- Reads what opens a group behind its parenthesis: a name, switches of modes or nothing. There is
    no looking around. -/
def openGroup? (reader : Reader) (s : List Char) : Option (Reader × List Char) :=
  match skip reader.mode.isVerbose s with
  | '?' :: 'P' :: '<' :: rest => named rest
  | '?' :: '<' :: rest =>
    match rest with
    | '=' :: _ | '!' :: _ => none
    | _ => named rest
  | '?' :: rest => do
    let (switches, mode, rest) ← takeSwitches? [] reader.mode rest
    match rest with
    | ':' :: rest => some (reader.enter false mode, rest)
    | _ :: rest =>
      if switches.isEmpty then none
      else some ({ reader with mode, level := reader.level.push ⟨0, 0, true, true⟩ }, rest)
    | [] => none
  | s => some (reader.enter true reader.mode, s)
where
  named (s : List Char) : Option (Reader × List Char) := do
    let (name, rest) ← takeGroupName? reader.names s
    return ({ reader with names := name :: reader.names }.enter true reader.mode, rest)

/-- What is left after a question mark that makes a repetition reluctant. -/
def dropReluctance : List Char → List Char
  | '?' :: rest => rest
  | s => s

/-- Reads a repetition with counts behind its brace: one count, a least one, or both. -/
def takeCounts? (isVerbose : Bool) (s : List Char) : Option (Nat × Option Nat × List Char) := do
  let (least, rest) ← takeCount? isVerbose (skip isVerbose s)
  let (greatest, rest) ← match rest with
    | ',' :: rest =>
      match skip isVerbose rest with
      | '\x7d' :: rest => some (none, '\x7d' :: rest)
      | rest => (takeCount? isVerbose rest).map fun (greatest, rest) => (some greatest, rest)
    | _ => some (some least, rest)
  match rest with
  | '\x7d' :: rest =>
    if greatest.any (· < least) then none
    else some (least, greatest, dropReluctance (skip isVerbose rest))
  | _ => none

/-- Reads an element that is not composed of others. Without Unicode, a byte beyond ASCII and the
    point could match a part of a character, and are refused. -/
def takeAtom? (mode : Mode) (c : Char) (rest : List Char) : Option (Piece × List Char) :=
  match c with
  | '\\' =>
    match takeEscape? mode.isVerbose mode.isUnicode rest with
    | some (.literal c isByte, rest) =>
      if isByte && !mode.isUnicode && 0x80 ≤ c.toNat then none
      else some (.ofAtom (.literal c isByte), rest)
    | some (atom, rest) => some (.ofAtom atom, rest)
    | none => none
  | '.' => if mode.isUnicode then some (.ofAtom .anyChar, rest) else none
  | '^' | '$' => some (.ofAtom .assertion, rest)
  | c => some (.ofAtom (.literal c false), rest)

/-- Reads one element of a pattern, one opening or closing of a group, or one operator. -/
def step? (reader : Reader) (c : Char) (rest : List Char) : Option (Reader × List Char) :=
  match c with
  | '(' => openGroup? reader rest
  | ')' => reader.leave?.map fun reader => (reader, rest)
  | '|' => some ({ reader with level := reader.level.nextChoice }, rest)
  | '[' => do
    let (level, rest) ← openClass? reader.mode rest
    let (level, rest) ← takeClass? reader.mode [level] rest
    return (reader.push ⟨1 + level.depth, Piece.runSize * level.runs, false, false⟩, rest)
  | '?' => (reader.repeatLast? 0 (some 1)).map fun reader => (reader, dropReluctance rest)
  | '*' => (reader.repeatLast? 0 none).map fun reader => (reader, dropReluctance rest)
  | '+' => (reader.repeatLast? 1 none).map fun reader => (reader, dropReluctance rest)
  | '\x7b' => do
    let (least, greatest, rest) ← takeCounts? reader.mode.isVerbose rest
    let reader ← reader.repeatLast? least greatest
    return (reader, rest)
  | c => (takeAtom? reader.mode c rest).map fun (piece, rest) => (reader.push piece, rest)

/-- The greatest depth to which a pattern may be nested. -/
def depthLimit : Nat := 250

/-- The greatest size of a program that a pattern may be turned into. -/
def sizeLimit : Nat := 0xa00000

/-- Reads a pattern to its end, where all groups have to be closed. Every step takes up
    something. -/
def read? (reader : Reader) (s : List Char) : Option Piece :=
  match skip reader.mode.isVerbose s with
  | [] => if reader.outer.isEmpty then some reader.level.piece else none
  | c :: rest =>
    match step? reader c rest with
    | none => none
    | some (reader, rest) => if rest.length < s.length then read? reader rest else none
termination_by s.length

/-- Whether a text is a regular expression as far as can be told without a library of them: it is
    well formed, not nested too deeply, and what it grows to is estimated to be small enough. The
    command line compiles queries under this test, and nothing is proved of it. -/
def accepts (pattern : String) : Bool :=
  match read? {} pattern.toList with
  | none => false
  | some piece => piece.depth ≤ depthLimit && piece.size ≤ sizeLimit

end Regex

end GraphQuery
