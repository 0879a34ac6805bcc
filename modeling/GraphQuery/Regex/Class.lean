import GraphQuery.Regex.Escape

namespace GraphQuery

namespace Regex

/-- The modes of a pattern that bear on what it may hold. -/
structure Mode where
  isVerbose : Bool := false
  isUnicode : Bool := true

/-- A bracketed class that is being read: the nesting depth of what stands to the left of an
    operator, the depths of the items after it, and the runs of characters so far. -/
structure ClassLevel where
  isNegated : Bool
  left : Option Nat := none
  items : List Nat := []
  runs : Nat := 0

namespace ClassLevel

/-- The level with one more item. -/
def push (level : ClassLevel) (depth runs : Nat) : ClassLevel :=
  { level with items := depth :: level.items, runs := level.runs + runs }

/-- The nesting depth of the items and of the operators before them. -/
def depth (level : ClassLevel) : Nat :=
  let items := match level.items with
    | [] => 0
    | [depth] => depth
    | depths => 1 + depths.foldl max 0
  match level.left with
  | none => items
  | some left => 1 + max left items

/-- The level after an operator. -/
def operate (level : ClassLevel) : ClassLevel :=
  { level with left := some level.depth, items := [] }

end ClassLevel

/-- Counts hyphens, and skips what may be skipped behind them. The flag tells whether a comment has
    begun. -/
def takeHyphens (isVerbose : Bool) : Bool → List Char → Nat × List Char
  | _, [] => (0, [])
  | true, c :: rest => takeHyphens isVerbose (c != '\n') rest
  | false, c :: rest =>
    if c = '-' then
      let (count, rest) := takeHyphens isVerbose false rest
      (count + 1, rest)
    else if isVerbose && Text.isBlankChar c then takeHyphens isVerbose false rest
    else if isVerbose && c = '#' then takeHyphens isVerbose true rest
    else (0, c :: rest)

/-- Reads the beginning of a class behind its bracket: a caret, hyphens that stand for themselves,
    and a bracket that does so because nothing else has come before it. -/
def openClass? (mode : Mode) (s : List Char) : Option (ClassLevel × List Char) :=
  let s := skip mode.isVerbose s
  let (isNegated, s) := match s with
    | '^' :: rest => (true, skip mode.isVerbose rest)
    | _ => (false, s)
  let (hyphens, s) := takeHyphens mode.isVerbose false s
  let level : ClassLevel := ⟨isNegated, none, List.replicate hyphens 0, hyphens⟩
  match s with
  | [] => none
  | ']' :: rest =>
    if hyphens = 0 then
      let rest := skip mode.isVerbose rest
      if rest.isEmpty then none else some (level.push 0 1, rest)
    else some (level, s)
  | _ => some (level, s)

/-- The names of the classes that stand between colons. -/
def namedClasses : List String :=
  ["alnum", "alpha", "ascii", "blank", "cntrl", "digit", "graph", "lower", "print", "punct",
   "space", "upper", "word", "xdigit"]

/-- Reads a class between colons behind its bracket, and tells whether it is negated. -/
def takeNamedClass? (s : List Char) : Option (Bool × List Char) :=
  match s with
  | ':' :: rest =>
    let (isNegated, rest) := match rest with
      | '^' :: rest => (true, rest)
      | _ => (false, rest)
    let name := rest.takeWhile (· != ':')
    match rest.drop name.length with
    | ':' :: ']' :: rest =>
      if namedClasses.contains (String.ofList name) then some (isNegated, rest) else none
    | _ => none
  | _ => none

/-- Reads one element of a class. -/
def takeClassAtom? (mode : Mode) (s : List Char) : Option (Atom × List Char) :=
  match s with
  | [] => none
  | '\\' :: rest => takeEscape? mode.isVerbose mode.isUnicode rest
  | c :: rest => some (.literal c false, rest)

/-- Whether a class may hold a character: without Unicode only one of ASCII. -/
def mayHold (mode : Mode) (c : Char) : Bool :=
  mode.isUnicode || c.toNat < 0x80

/-- Reads an element of a class, or a range between two of them. A hyphen before the closing
    bracket, or before another hyphen, does not make a range. -/
def takeClassItem? (mode : Mode) (s : List Char) : Option (Nat × List Char) := do
  let (first, rest) ← takeClassAtom? mode s
  let rest := skip mode.isVerbose rest
  let isRange := match rest with
    | '-' :: behind =>
      match skip mode.isVerbose behind with
      | ']' :: _ | '-' :: _ => false
      | _ => true
    | _ => false
  if isRange then
    let (last, rest) ← takeClassAtom? mode (advance mode.isVerbose rest)
    match first, last with
    | .literal low _, .literal high _ =>
      if low.toNat ≤ high.toNat ∧ mayHold mode low ∧ mayHold mode high then some (1, rest) else none
    | _, _ => none
  else
    match first with
    | .literal c _ => if mayHold mode c then some (1, rest) else none
    | .single _ => some (1, rest)
    | .runs count => some (count, rest)
    | _ => none

/-- What one step of reading a class leads to. -/
inductive ClassStep where
  | going (levels : List ClassLevel)
  | closed (level : ClassLevel)

/-- One step of reading a class with the levels around it. -/
def classStep? (mode : Mode) (level : ClassLevel) (outer : List ClassLevel) (s : List Char) :
    Option (ClassStep × List Char) :=
  match s with
  | [] => none
  | '[' :: rest =>
    match takeNamedClass? rest with
    | some (isNegated, rest) =>
      if isNegated && !mode.isUnicode then none else some (.going (level.push 0 2 :: outer), rest)
    | none =>
      (openClass? mode rest).map fun (inner, rest) => (.going (inner :: level :: outer), rest)
  | ']' :: rest =>
    if level.isNegated && !mode.isUnicode then none
    else match outer with
      | [] => some (.closed level, rest)
      | parent :: outer => some (.going (parent.push (1 + level.depth) level.runs :: outer), rest)
  | '&' :: '&' :: rest => some (.going (level.operate :: outer), rest)
  | '-' :: '-' :: rest => some (.going (level.operate :: outer), rest)
  | '~' :: '~' :: rest => some (.going (level.operate :: outer), rest)
  | _ => (takeClassItem? mode s).map fun (runs, rest) => (.going (level.push 0 runs :: outer), rest)

/-- Reads a class up to its closing bracket. Every step takes up something. -/
def takeClass? (mode : Mode) (levels : List ClassLevel) (s : List Char) :
    Option (ClassLevel × List Char) :=
  let s' := skip mode.isVerbose s
  match levels with
  | [] => none
  | level :: outer =>
    match classStep? mode level outer s' with
    | none => none
    | some (.closed level, rest) => some (level, rest)
    | some (.going levels, rest) =>
      if rest.length < s.length then takeClass? mode levels rest else none
termination_by s.length

end Regex

end GraphQuery
