import GraphQuery.Proofs.Name.Parameter
import GraphQuery.Proofs.Statement.Reading

namespace GraphQuery

/-- A piece of a statement whose anonymous parameters are not numbered yet: text that takes no
    parameter, the place of a value without a name of its own, the place of a value that shares the
    name of its alias and column, the place of a parameter that the caller binds, or text in the
    caller's own words with the values that come with it. -/
inductive Piece where
  | text (s : String)
  | value (v : Value)
  | shared (aliasName column : String) (v : Value)
  | caller (name : String)
  | verbatim (text : String) (bindings : Bindings)

/-- A statement, or a part of one, in the order of its text. -/
abbrev Template := List Piece

namespace Piece

/-- The value that takes an anonymous name, if there is one. -/
def value? : Piece → Option Value
  | value v => some v
  | _ => none

/-- The name of a parameter that the caller binds, if it is the place of one. -/
def caller? : Piece → Option String
  | caller name => some name
  | _ => none

/-- The names of the values that come with the caller's own words. -/
def suppliedNames : Piece → List String
  | verbatim _ bindings => bindings.table.names
  | _ => []

/-- Whether a piece is text in the caller's own words. -/
def isVerbatim : Piece → Bool
  | verbatim .. => true
  | _ => false

/-- The name that is written at the place of a parameter, where `n` anonymous names are taken. -/
def name? (stem : String) (n : Nat) : Piece → Option String
  | text _ => none
  | value _ => some (Name.anonymous stem (n + 1))
  | shared aliasName column _ => some (Name.semantic aliasName column)
  | caller name => some name
  | verbatim .. => none

/-- A piece as it is written. -/
def fill (stem : String) (n : Nat) : Piece → String
  | text s => s
  | value _ => Name.placeholder (Name.anonymous stem (n + 1))
  | shared aliasName column _ => Name.placeholder (Name.semantic aliasName column)
  | caller name => Name.placeholder name
  | verbatim s _ => s

/-- The parameters that a piece is written with, each with its value. -/
def entries (stem : String) (n : Nat) : Piece → Fields Value
  | value v => [(Name.anonymous stem (n + 1), v)]
  | shared aliasName column v => [(Name.semantic aliasName column, v)]
  | verbatim _ bindings => bindings.table
  | _ => []

end Piece

namespace Template

/-- The values that take anonymous names, in order. -/
def values (template : Template) : List Value :=
  template.filterMap Piece.value?

/-- The names of the parameters that the caller binds, in order. -/
def callers (template : Template) : List String :=
  template.filterMap Piece.caller?

/-- The names of the values that come with the caller's own words, in order. -/
def suppliedNames (template : Template) : List String :=
  template.flatMap Piece.suppliedNames

/-- Whether some of the text is in the caller's own words. -/
def hasVerbatim (template : Template) : Bool :=
  template.any Piece.isVerbatim

/-- The number of anonymous names that the statement takes up. -/
def count (template : Template) : Nat :=
  template.values.length

/-- Every piece with the number of anonymous names that are taken before it. -/
def numbered : Nat → Template → List (Nat × Piece)
  | _, [] => []
  | n, piece :: template => (n, piece) :: numbered (n + count [piece]) template

/-- The statement as it is written after `n` anonymous names are taken. -/
def fill (stem : String) (n : Nat) (template : Template) : String :=
  String.join ((template.numbered n).map fun (n, piece) => piece.fill stem n)

/-- The names at the places of parameters, in order. -/
def names (stem : String) (n : Nat) (template : Template) : List String :=
  (template.numbered n).filterMap fun (n, piece) => piece.name? stem n

/-- The parameters that the statement is written with, in the order of their places. -/
def entries (stem : String) (n : Nat) (template : Template) : Fields Value :=
  (template.numbered n).flatMap fun (n, piece) => piece.entries stem n

theorem values_append (first second : Template) :
    values (first ++ second) = values first ++ values second :=
  List.filterMap_append

theorem count_append (first second : Template) :
    count (first ++ second) = count first + count second := by
  rw [count, values_append, List.length_append, count, count]

theorem numbered_append (n : Nat) (first second : Template) :
    numbered n (first ++ second) = numbered n first ++ numbered (n + count first) second := by
  induction first generalizing n with
  | nil => rfl
  | cons piece first ih =>
    rw [List.cons_append, numbered, numbered, ih, List.cons_append, Nat.add_assoc, ← count_append]
    rfl

variable {stem : String}

@[simp]
theorem fill_nil (stem : String) (n : Nat) : fill stem n [] = "" :=
  String.join_nil

theorem fill_append (n : Nat) (first second : Template) :
    fill stem n (first ++ second) = fill stem n first ++ fill stem (n + count first) second := by
  rw [fill, numbered_append, List.map_append, String.join_append, fill, fill]

theorem fill_singleton (n : Nat) (piece : Piece) : fill stem n [piece] = piece.fill stem n := by
  simp [fill, numbered]

theorem fill_cons (n : Nat) (piece : Piece) (template : Template) :
    fill stem n (piece :: template) =
      piece.fill stem n ++ fill stem (n + count [piece]) template := by
  simp [fill, numbered]

theorem entries_append (n : Nat) (first second : Template) :
    entries stem n (first ++ second) =
      entries stem n first ++ entries stem (n + count first) second := by
  rw [entries, numbered_append, List.flatMap_append, entries, entries]

theorem entries_cons (n : Nat) (piece : Piece) (template : Template) :
    entries stem n (piece :: template) =
      piece.entries stem n ++ entries stem (n + count [piece]) template :=
  rfl

theorem names_cons (n : Nat) (piece : Piece) (template : Template) :
    names stem n (piece :: template) =
      (piece.name? stem n).toList ++ names stem (n + count [piece]) template := by
  simp only [names, numbered, List.filterMap_cons]
  cases piece.name? stem n <;> rfl

/-- A template that does not go on with the name it is written behind, however it is numbered. -/
def Detached (template : Template) : Prop :=
  ∀ stem n, Statement.Detached (template.fill stem n).toList

theorem detached_nil : Detached [] := by
  intro stem n c hmem
  simp at hmem

/-- Whether a text begins with a character that no name goes on with. -/
def breaksOff (text : String) : Bool :=
  text.toList.head?.any fun c => !Name.isPart c

theorem breaksOff_append {s : String} (more : String) (hbreaks : breaksOff s = true) :
    breaksOff (s ++ more) = true := by
  unfold breaksOff at hbreaks ⊢
  cases hs : s.toList with
  | nil => simp [hs] at hbreaks
  | cons first rest => simpa [String.toList_append, hs] using hbreaks

theorem detached_text {s : String} (template : Template) (hbreaks : breaksOff s = true) :
    Detached (.text s :: template) := by
  intro stem n c hmem
  rw [fill_cons, String.toList_append] at hmem
  unfold breaksOff at hbreaks
  change c ∈ (s.toList ++ _).head? at hmem
  cases hs : s.toList with
  | nil => simp [hs] at hbreaks
  | cons first rest =>
    rw [hs, List.cons_append, List.head?_cons, Option.mem_some_iff] at hmem
    simpa [hs, hmem] using hbreaks

theorem Detached.append {first second : Template} (hfirst : Detached first)
    (hsecond : Detached second) : Detached (first ++ second) := by
  intro stem n c hmem
  rw [fill_append, String.toList_append, List.head?_append] at hmem
  rcases Option.or_eq_some_iff.mp hmem with hfront | ⟨_, hback⟩
  · exact hfirst stem n c hfront
  · exact hsecond stem _ c hback

/-- A template whose parameters can be read back from what is written for it: text is silent, the
    names of parameters are identifiers and those of the caller's are not anonymous, and behind the
    place of a parameter stands nothing that its name runs into. Text in the caller's own words may
    be anything. -/
inductive Sound (stem : String) : Template → Prop where
  | nil : Sound stem []
  | text {s : String} {template : Template} (hsilent : Statement.Silent s)
      (hsound : Sound stem template) : Sound stem (.text s :: template)
  | verbatim {s : String} {bindings : Bindings} {template : Template}
      (hsound : Sound stem template) : Sound stem (.verbatim s bindings :: template)
  | value {v : Value} {template : Template} (hdetached : Detached template)
      (hsound : Sound stem template) : Sound stem (.value v :: template)
  | shared {aliasName column : String} {v : Value} {template : Template}
      (halias : Name.isIdentifier aliasName = true) (hdetached : Detached template)
      (hsound : Sound stem template) : Sound stem (.shared aliasName column v :: template)
  | caller {name : String} {template : Template} (hname : Name.isIdentifier name = true)
      (hanonymous : Name.isAnonymous stem name = false) (hdetached : Detached template)
      (hsound : Sound stem template) : Sound stem (.caller name :: template)

namespace Sound

theorem append {first second : Template} (hfirst : Sound stem first) (hsecond : Sound stem second)
    (hdetached : Detached second) : Sound stem (first ++ second) := by
  induction hfirst with
  | nil => exact hsecond
  | text hsilent _ ih => exact .text hsilent ih
  | verbatim _ ih => exact .verbatim ih
  | value hrest _ ih => exact .value (hrest.append hdetached) ih
  | shared halias hrest _ ih => exact .shared halias (hrest.append hdetached) ih
  | caller hname hanonymous hrest _ ih =>
    exact .caller hname hanonymous (hrest.append hdetached) ih

/-- The places of parameters are read in order, each with its own name. -/
theorem namesFrom_fill (hstem : Name.IsStem stem) {template : Template}
    (hsound : Sound stem template) (hverbatim : template.hasVerbatim = false) (n : Nat)
    {rest : List Char} (hrest : Statement.Detached rest) :
    Statement.namesFrom .plain ((template.fill stem n).toList ++ rest) =
      template.names stem n ++ Statement.namesFrom .plain rest := by
  have happend : ∀ {template : Template} {n : Nat}, Detached template →
      Statement.Detached ((template.fill stem n).toList ++ rest) := by
    intro template n hdetached c hmem
    rw [List.head?_append] at hmem
    rcases Option.or_eq_some_iff.mp hmem with hfront | ⟨_, hback⟩
    · exact hdetached stem n c hfront
    · exact hrest c hback
  induction hsound generalizing n with
  | nil => simp [names, numbered]
  | text hsilent _ ih =>
    rw [fill_cons, names_cons, String.toList_append, List.append_assoc]
    exact (hsilent _).trans (ih hverbatim _)
  | verbatim _ _ => simp [hasVerbatim, Piece.isVerbatim] at hverbatim
  | value hdetached _ ih =>
    rw [fill_cons, names_cons, String.toList_append, List.append_assoc, Piece.fill,
      Statement.namesFrom_placeholder (Name.isIdentifier_anonymous hstem _) (happend hdetached),
      ih hverbatim]
    rfl
  | shared halias hdetached _ ih =>
    rw [fill_cons, names_cons, String.toList_append, List.append_assoc, Piece.fill,
      Statement.namesFrom_placeholder (Name.isIdentifier_semantic halias _) (happend hdetached),
      ih hverbatim]
    rfl
  | caller hname _ hdetached _ ih =>
    rw [fill_cons, names_cons, String.toList_append, List.append_assoc, Piece.fill,
      Statement.namesFrom_placeholder hname (happend hdetached), ih hverbatim]
    rfl

end Sound

end Template

end GraphQuery
