import GraphQuery.Name.Parameter
import GraphQuery.Proofs.Name.Written
import GraphQuery.Query.Compile

namespace GraphQuery

/-- The smallest unit of a statement: a name, which may stand between back-quotes, a parameter by
    its name, or any other character that is not a space. -/
inductive Token where
  | name (name : String)
  | parameter (name : String)
  | symbol (c : Char)
  deriving DecidableEq

namespace Token

/-- What a reader of a statement knows of the token it is in. Behind a back-quote that may close a
    name it has yet to see whether another one follows, which stands for itself with the first. -/
inductive Pending where
  | blank
  | symbol (c : Char)
  | name (front : List Char)
  | parameter (front : List Char)
  | quoted (front : List Char)
  | closed (front : List Char)

namespace Pending

/-- The token that a character begins. -/
def first (c : Char) : Pending :=
  if c = ' ' then blank
  else if c = '$' then parameter []
  else if c = '\x60' then quoted []
  else if Name.isPart c then name [c]
  else symbol c

/-- The token with one more character, if it goes on with it. -/
def next? (c : Char) : Pending → Option Pending
  | blank => none
  | symbol _ => none
  | name front => if Name.isPart c then some (name (front ++ [c])) else none
  | parameter front => if Name.isPart c then some (parameter (front ++ [c])) else none
  | quoted front => some (if c = '\x60' then closed front else quoted (front ++ [c]))
  | closed front => if c = '\x60' then some (quoted (front ++ [c])) else none

/-- The token where it ends. A back-quote that is not closed is a character of its own. -/
def tokens : Pending → List Token
  | blank => []
  | symbol c => [.symbol c]
  | name front => [.name (String.ofList front)]
  | parameter front => [.parameter (String.ofList front)]
  | quoted front => [.symbol '\x60', .name (String.ofList front)]
  | closed front => [.name (String.ofList front)]

end Pending

/-- The tokens of a text that follows a part of one. -/
def scan (pending : Pending) : List Char → List Token
  | [] => pending.tokens
  | c :: rest =>
    match pending.next? c with
    | some next => scan next rest
    | none => pending.tokens ++ scan (.first c) rest

/-- A text that is read as some tokens before anything that does not go on with its last name. -/
def Scans (text : String) (tokens : List Token) : Prop :=
  ∀ rest, Text.Ends Name.continues rest →
    scan .blank (text.toList ++ rest) = tokens ++ scan .blank rest

/-- A text that is read as some tokens before anything. -/
def Separates (text : String) (tokens : List Token) : Prop :=
  ∀ rest, scan .blank (text.toList ++ rest) = tokens ++ scan .blank rest

theorem scan_blank_cons (c : Char) (rest : List Char) :
    scan .blank (c :: rest) = scan (.first c) rest :=
  rfl

theorem scan_of_ends (pending : Pending) (rest : List Char)
    (hends : ∀ c ∈ rest.head?, pending.next? c = none) :
    scan pending rest = pending.tokens ++ scan .blank rest := by
  cases rest with
  | nil => exact (List.append_nil _).symm
  | cons c rest => rw [scan, hends c rfl, scan_blank_cons]

/-- The name of a parameter, or one that is not between back-quotes, is read as far as it goes. -/
theorem scan_run (pending : List Char → Pending) {run : List Char} (front rest : List Char)
    (hnext : ∀ front c, Name.isPart c = true →
      (pending front).next? c = some (pending (front ++ [c])))
    (hrun : ∀ c ∈ run, Name.isPart c = true) :
    scan (pending front) (run ++ rest) = scan (pending (front ++ run)) rest := by
  induction run generalizing front with
  | nil => simp
  | cons c run ih =>
    have hrest := ih (front ++ [c]) fun d hmem => hrun d (List.mem_cons_of_mem c hmem)
    simp only [List.cons_append, scan, hnext front c (hrun c List.mem_cons_self)]
    rw [hrest, List.append_assoc, List.singleton_append]

theorem scan_quoted (name front rest : List Char) :
    scan (.quoted front) (name.flatMap (fun c => if c = '\x60' then [c, c] else [c]) ++
      '\x60' :: rest) = scan (.closed (front ++ name)) rest := by
  induction name generalizing front with
  | nil => simp [scan, Pending.next?]
  | cons c name ih =>
    have hrest := ih (front ++ [c])
    rw [List.append_assoc, List.singleton_append] at hrest
    rw [List.flatMap_cons, List.append_assoc]
    by_cases hback : c = '\x60'
    · rw [if_pos hback, ← hrest]
      simp [scan, Pending.next?, hback]
    · rw [if_neg hback, ← hrest]
      simp [scan, Pending.next?, hback]

theorem first_of_isStart {c : Char} (hstart : Name.isStart c = true) :
    Pending.first c = .name [c] := by
  have hne : ∀ special, Name.isStart special = false → c ≠ special := by
    rintro special hspecial rfl
    exact Bool.false_ne_true (hspecial.symm.trans hstart)
  rw [Pending.first, if_neg (hne _ (by decide)), if_neg (hne _ (by decide)),
    if_neg (hne _ (by decide)), if_pos (Name.isPart_of_isStart hstart)]

theorem scans_name {name : String} (hname : Name.isIdentifier name = true) :
    Scans name [.name name] := by
  intro rest hrest
  obtain ⟨c, parts, hcons, hstart, hparts⟩ := Name.isIdentifier_iff.mp hname
  have hrun := scan_run .name [c] rest
    (fun front d hpart => by rw [Pending.next?, if_pos hpart]) hparts
  have hends := scan_of_ends (.name name.toList) rest fun d hmem => by
    rw [Pending.next?, Name.ends_isPart_of_continues hrest d hmem]
    rfl
  rw [hcons, List.cons_append, scan_blank_cons, first_of_isStart hstart, hrun,
    List.singleton_append, ← hcons, hends, Pending.tokens, String.ofList_toList]

theorem scans_placeholder {name : String} (hname : Name.isIdentifier name = true) :
    Scans (Name.placeholder name) [.parameter name] := by
  intro rest hrest
  have hrun := scan_run .parameter [] rest
    (fun front d hpart => by rw [Pending.next?, if_pos hpart])
    (fun d hmem => Name.isPart_of_isIdentifier hname hmem)
  have hends := scan_of_ends (.parameter name.toList) rest fun d hmem => by
    rw [Pending.next?, Name.ends_isPart_of_continues hrest d hmem]
    rfl
  have hfront : (Name.placeholder name).toList ++ rest = '$' :: (name.toList ++ rest) := by
    simp [Name.placeholder]
  rw [hfront, scan_blank_cons]
  change scan (.parameter []) (name.toList ++ rest) = _
  rw [hrun, List.nil_append, hends, Pending.tokens, String.ofList_toList]

/-- A name is read back, whether or not it is written between back-quotes. -/
theorem scans_written (name : String) : Scans (Name.written name) [.name name] := by
  unfold Name.written
  split
  · rename_i hname
    exact scans_name hname
  · intro rest hrest
    have hquoted := scan_quoted name.toList [] rest
    have hends := scan_of_ends (.closed name.toList) rest fun d hmem => by
      have hcontinues := hrest d hmem
      rw [Name.continues, Bool.or_eq_false_iff, decide_eq_false_iff_not] at hcontinues
      rw [Pending.next?, if_neg hcontinues.2]
    rw [List.nil_append, hends] at hquoted
    simpa [Name.backQuoted, scan, Pending.next?, Pending.first, Pending.tokens] using hquoted

example : scan .blank "p.\x60a\x60\x60b\x60 = $param1".toList =
    [.name "p", .symbol '.', .name "a\x60b", .symbol '=', .parameter "param1"] := by
  decide +kernel

variable {first second : String} {tokens more : List Token}

theorem separates_symbol {c : Char} (htext : first.toList = [c])
    (hsymbol : Pending.first c = .symbol c) : Separates first [.symbol c] := by
  intro rest
  have hends := scan_of_ends (.symbol c) rest fun _ _ => rfl
  rw [htext, List.singleton_append, scan_blank_cons, hsymbol, hends, Pending.tokens]

theorem Separates.scans (hfirst : Separates first tokens) : Scans first tokens :=
  fun rest _ => hfirst rest

theorem Separates.append (hfirst : Separates first tokens) (hsecond : Scans second more) :
    Scans (first ++ second) (tokens ++ more) := by
  intro rest hrest
  rw [String.toList_append, List.append_assoc, hfirst, hsecond rest hrest, List.append_assoc]

/-- A text is cut off by another one that its last name does not go on with. -/
theorem Scans.cut (hfirst : Scans first tokens) (hsecond : Separates second more)
    (hcut : second.toList.head?.any (fun c => !Name.continues c) = true) :
    Separates (first ++ second) (tokens ++ more) := by
  intro rest
  have hends : Text.Ends Name.continues (second.toList ++ rest) := by
    cases htext : second.toList with
    | nil => simp [htext] at hcut
    | cons c cs => exact Text.ends_cons (by simpa [htext] using hcut) _
  rw [String.toList_append, List.append_assoc, hfirst _ hends, hsecond, List.append_assoc]

theorem Scans.append (hfirst : Scans first tokens) (hsecond : Scans second more)
    (hends : Text.Ends Name.continues second.toList) :
    Scans (first ++ second) (tokens ++ more) := by
  intro rest hrest
  have hboth : Text.Ends Name.continues (second.toList ++ rest) := by
    intro c hmem
    cases htext : second.toList with
    | nil => exact hrest c (by simpa [htext] using hmem)
    | cons d cs => exact hends c (by simpa [htext] using hmem)
  rw [String.toList_append, List.append_assoc, hfirst _ hboth, hsecond rest hrest,
    List.append_assoc]

/-- Texts with commas in between are read one after the other. -/
theorem scans_commaJoin {α : Type} {text : α → String} {tokens : α → List Token} {items : List α}
    (hitems : ∀ item ∈ items, Scans (text item) (tokens item)) :
    Scans (Text.commaJoin (items.map text)) ([.symbol ','].intercalate (items.map tokens)) := by
  induction items with
  | nil => exact fun _ _ => rfl
  | cons first items ih =>
    have hfirst := hitems first List.mem_cons_self
    have hrest := ih fun item hmem => hitems item (List.mem_cons_of_mem first hmem)
    cases items with
    | nil =>
      rw [List.map_singleton, List.map_singleton, Text.commaJoin, String.intercalate_singleton,
        List.intercalate_singleton]
      exact hfirst
    | cons second items =>
      rw [List.map_cons, List.map_cons, Text.commaJoin, String.intercalate_cons_cons,
        List.map_cons, List.map_cons, List.intercalate_cons_cons]
      have hcomma : Separates ", " [.symbol ','] := fun _ => rfl
      exact (hfirst.cut hcomma rfl).append hrest

end Token

end GraphQuery
