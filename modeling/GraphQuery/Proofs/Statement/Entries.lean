import GraphQuery.Proofs.Statement.Token
import Mathlib.Data.List.Infix

namespace GraphQuery

namespace Token

/-- Reads one column with its parameter: some tokens in front, the column, what joins the two, and
    the parameter. -/
def item? (front : List Token) (joint : Char) (tokens : List Token) :
    Option ((String × String) × List Token) :=
  match tokens.dropPrefix? front with
  | some (.name column :: .symbol c :: .parameter p :: rest) =>
    if c = joint then some ((column, p), rest) else none
  | _ => none

theorem length_lt_of_item? {front tokens rest : List Token} {joint : Char}
    {entry : String × String} (hentry : item? front joint tokens = some (entry, rest)) :
    rest.length < tokens.length := by
  unfold item? at hentry
  split at hentry
  · rename_i column c parameter behind hprefix
    split at hentry
    · cases hentry
      obtain ⟨front', rfl, _⟩ := List.dropPrefix?_eq_some_iff.mp hprefix
      simp only [List.length_append, List.length_cons]
      omega
    · cases hentry
  · cases hentry

/-- Reads columns with their parameters for as long as a comma follows. -/
def entries? (front : List Token) (joint : Char) (tokens : List Token) :
    Option (List (String × String) × List Token) :=
  match _hitem : item? front joint tokens with
  | none => none
  | some (entry, .symbol ',' :: rest) => do
    let (more, rest) ← entries? front joint rest
    return (entry :: more, rest)
  | some (entry, rest) => some ([entry], rest)
termination_by tokens.length
decreasing_by
  have hlength := length_lt_of_item? _hitem
  rw [List.length_cons] at hlength
  omega

/-- The tokens of a column with its parameter. -/
def entryTokens (front : List Token) (joint : Char) (entry : String × String) : List Token :=
  front ++ [.name entry.1, .symbol joint, .parameter entry.2]

theorem item?_entryTokens (front : List Token) (joint : Char) (entry : String × String)
    (rest : List Token) :
    item? front joint (entryTokens front joint entry ++ rest) = some (entry, rest) := by
  rw [item?, entryTokens, List.append_assoc, List.dropPrefix?_append_of_beq _ (BEq.refl front)]
  simp

/-- A list of entries is read back, up to where no comma follows. -/
theorem entries?_intercalate (front : List Token) (joint : Char)
    {entries : List (String × String)} (rest : List Token) (hne : entries ≠ [])
    (hrest : rest.head? ≠ some (.symbol ',')) :
    entries? front joint
      ([.symbol ','].intercalate (entries.map (entryTokens front joint)) ++ rest) =
        some (entries, rest) := by
  induction entries with
  | nil => exact absurd rfl hne
  | cons entry entries ih =>
    cases entries with
    | nil =>
      rw [List.map_singleton, List.intercalate_singleton, entries?, item?_entryTokens]
      cases rest with
      | nil => rfl
      | cons token rest =>
        split
        · rename_i hsome
          cases hsome
        · rename_i hsome
          cases hsome
          exact absurd rfl hrest
        · rename_i hsome
          cases hsome
          rfl
    | cons next entries =>
      have hmore := ih (List.cons_ne_nil next entries)
      rw [List.map_cons] at hmore
      rw [List.map_cons, List.map_cons, List.intercalate_cons_cons, List.append_assoc,
        List.append_assoc, entries?, item?_entryTokens]
      simp [hmore]

/-- Reads a node of an alias and a label with its inline properties. -/
def node? (aliasName label : String) (tokens : List Token) :
    Option (List (String × String) × List Token) := do
  let tokens ← tokens.dropPrefix?
    [.symbol '(', .name aliasName, .symbol ':', .name label, .symbol '\x7b']
  let (entries, tokens) ← entries? [] ':' tokens
  let tokens ← tokens.dropPrefix? [.symbol '\x7d', .symbol ')']
  return (entries, tokens)

/-- Reads assignments to columns of an alias. -/
def assignments? (aliasName : String) (tokens : List Token) :
    Option (List (String × String) × List Token) :=
  entries? [.name aliasName, .symbol '.'] '=' tokens

/-- Reads one branch of a merge, which may be missing. -/
def branch? (keyword aliasName : String) (tokens : List Token) :
    Option (List (String × String) × List Token) :=
  match tokens.dropPrefix? [.name "ON", .name keyword, .name "SET"] with
  | some tokens => assignments? aliasName tokens
  | none => some ([], tokens)

/-- The tokens of a node of an alias and a label with its inline properties. -/
def nodeTokens (aliasName label : String) (entries : List (String × String)) : List Token :=
  [.symbol '(', .name aliasName, .symbol ':', .name label, .symbol '\x7b'] ++
    [.symbol ','].intercalate (entries.map (entryTokens [] ':')) ++
    [.symbol '\x7d', .symbol ')']

/-- The tokens of assignments to columns of an alias. -/
def assignmentTokens (aliasName : String) (entries : List (String × String)) : List Token :=
  [.symbol ','].intercalate (entries.map (entryTokens [.name aliasName, .symbol '.'] '='))

/-- The tokens of one branch of a merge. -/
def branchTokens (keyword aliasName : String) (entries : List (String × String)) : List Token :=
  if entries.isEmpty then []
  else [.name "ON", .name keyword, .name "SET"] ++ assignmentTokens aliasName entries

variable {aliasName label : String} {entries : List (String × String)} {rest : List Token}

theorem node?_nodeTokens (aliasName label : String) (rest : List Token) (hne : entries ≠ []) :
    node? aliasName label (nodeTokens aliasName label entries ++ rest) = some (entries, rest) := by
  have hentries := entries?_intercalate [] ':' ([.symbol '\x7d', .symbol ')'] ++ rest) hne (by simp)
  rw [node?, nodeTokens, List.append_assoc, List.append_assoc,
    List.dropPrefix?_append_of_beq _ (BEq.refl _)]
  simp only [Option.bind_eq_bind, Option.bind_some]
  rw [hentries]
  simp only [Option.bind_some]
  rw [List.dropPrefix?_append_of_beq _ (BEq.refl _)]
  rfl

theorem head?_branchTokens (branch aliasName : String) (entries : List (String × String)) :
    (branchTokens branch aliasName entries).head? ≠ some (.symbol ',') := by
  cases entries <;> simp [branchTokens]

theorem dropPrefix?_branchTokens {keyword branch : String} (hne : branch ≠ keyword)
    (aliasName : String) (entries : List (String × String)) :
    (branchTokens branch aliasName entries).dropPrefix?
      [.name "ON", .name keyword, .name "SET"] = none := by
  cases entries <;> simp [branchTokens, List.dropPrefix?, hne]

theorem branch?_branchTokens (keyword aliasName : String) (entries : List (String × String))
    (hrest : rest.head? ≠ some (.symbol ','))
    (hother : rest.dropPrefix? [.name "ON", .name keyword, .name "SET"] = none) :
    branch? keyword aliasName (branchTokens keyword aliasName entries ++ rest) =
      some (entries, rest) := by
  unfold branchTokens
  split
  · rename_i hempty
    rw [List.isEmpty_iff.mp hempty, List.nil_append, branch?, hother]
  · rename_i hne
    rw [branch?, List.append_assoc, List.dropPrefix?_append_of_beq _ (BEq.refl _)]
    exact entries?_intercalate _ _ _ (by simpa using hne) hrest

/-- A column with its parameter as an inline property. -/
def inlineEntry (entry : String × String) : String :=
  Name.written entry.1 ++ ": " ++ Name.placeholder entry.2

/-- A column with its parameter as an assignment. -/
def assignmentEntry (aliasName : String) (entry : String × String) : String :=
  aliasName ++ "." ++ Name.written entry.1 ++ " = " ++ Name.placeholder entry.2

/-- A node of an alias and a label with its inline properties. -/
def nodeText (aliasName label : String) (entries : List (String × String)) : String :=
  "(" ++ (aliasName ++ (":" ++ Name.written label)) ++ inlineText (entries.map inlineEntry) ++ ")"

/-- One branch of a merge behind its keyword. -/
def branchText (keyword aliasName : String) (entries : List (String × String)) : String :=
  if entries.isEmpty then ""
  else " " ++ keyword ++ " " ++ Text.commaJoin (entries.map (assignmentEntry aliasName))

theorem scans_inlineEntry {entry : String × String}
    (hparameter : Name.isIdentifier entry.2 = true) :
    Scans (inlineEntry entry) (entryTokens [] ':' entry) := by
  have hjoint : Separates ": " [.symbol ':'] := fun _ => rfl
  exact ((scans_written entry.1).cut hjoint rfl).append (scans_placeholder hparameter)

theorem scans_assignmentEntry (halias : Name.isIdentifier aliasName = true)
    {entry : String × String} (hparameter : Name.isIdentifier entry.2 = true) :
    Scans (assignmentEntry aliasName entry)
      (entryTokens [.name aliasName, .symbol '.'] '=' entry) := by
  have hpoint : Separates "." [.symbol '.'] := separates_symbol rfl rfl
  have hjoint : Separates " = " [.symbol '='] := fun _ => rfl
  have htarget := ((scans_name halias).cut hpoint rfl).append (scans_written entry.1)
  exact (htarget.cut hjoint rfl).append (scans_placeholder hparameter)

theorem separates_nodeText (halias : Name.isIdentifier aliasName = true) (hne : entries ≠ [])
    (hparameters : ∀ entry ∈ entries, Name.isIdentifier entry.2 = true) :
    Separates (nodeText aliasName label entries) (nodeTokens aliasName label entries) := by
  have hopen : Separates "(" [.symbol '('] := separates_symbol rfl rfl
  have hcolon : Separates ":" [.symbol ':'] := separates_symbol rfl rfl
  have hleft : Separates "\x7b" [.symbol '\x7b'] := separates_symbol rfl rfl
  have hbrace : Separates " \x7b" [.symbol '\x7b'] := fun rest => hleft rest
  have hright : Separates "\x7d" [.symbol '\x7d'] := separates_symbol rfl rfl
  have hclose : Separates ")" [.symbol ')'] := separates_symbol rfl rfl
  have hhead := hopen.append (((scans_name halias).cut hcolon rfl).append (scans_written label))
  have hentries := scans_commaJoin fun entry hmem => scans_inlineEntry (hparameters entry hmem)
  have hnode := (((hhead.cut hbrace rfl).append hentries).cut hright rfl).scans.cut hclose rfl
  have hmap : (entries.map inlineEntry).isEmpty = false := by simpa using hne
  have htext : nodeText aliasName label entries =
      "(" ++ (aliasName ++ ":" ++ Name.written label) ++ " \x7b" ++
        Text.commaJoin (entries.map inlineEntry) ++ "\x7d" ++ ")" := by
    simp [nodeText, inlineText, hmap, String.append_assoc]
  rw [htext, nodeTokens, List.append_assoc]
  simpa only [List.append_assoc, List.cons_append, List.nil_append] using hnode

theorem scans_branchText {keyword branch : String} (halias : Name.isIdentifier aliasName = true)
    (hparameters : ∀ entry ∈ entries, Name.isIdentifier entry.2 = true)
    (hkeyword : Separates (" " ++ keyword ++ " ") [.name "ON", .name branch, .name "SET"]) :
    Scans (branchText keyword aliasName entries) (branchTokens branch aliasName entries) := by
  unfold branchText branchTokens
  split
  · exact fun _ _ => rfl
  · exact hkeyword.append
      (scans_commaJoin fun entry hmem => scans_assignmentEntry halias (hparameters entry hmem))

theorem ends_branchText (keyword aliasName : String) (entries : List (String × String)) :
    Text.Ends Name.continues (branchText keyword aliasName entries).toList := by
  unfold branchText
  split
  · exact Text.ends_nil _
  · rw [String.append_assoc, String.append_assoc, String.toList_append]
    exact Text.ends_cons rfl _

end Token

/-- A column is given with a parameter of its value. -/
structure Bindings.Holds (bindings : Bindings) (entry : String × String)
    (column : String × Value) : Prop where
  column_eq : entry.1 = column.1
  isIdentifier : Name.isIdentifier entry.2 = true
  get?_eq : bindings.get? entry.2 = some column.2

open Token

namespace Statement

variable {aliasName label : String} {entries : List (String × String)}
  {columns : List (String × Value)}

/-- The tokens of a statement. -/
def tokens (statement : Statement) : List Token :=
  scan .blank statement.text.toList

/-- The columns with the values of their parameters. -/
def resolve? (statement : Statement) (entries : List (String × String)) :
    Option (List (String × Value)) :=
  entries.mapM fun entry => do return (entry.1, ← statement.bindings.get? entry.2)

/-- The columns that a statement gives to the only node it creates. -/
def created? (statement : Statement) (aliasName label : String) :
    Option (List (String × Value)) := do
  let tokens ← statement.tokens.dropPrefix? [.name "CREATE"]
  let (entries, rest) ← node? aliasName label tokens
  if rest.isEmpty then statement.resolve? entries else none

/-- The columns that a statement assigns. -/
def assigned? (statement : Statement) (aliasName : String) : Option (List (String × Value)) := do
  let tokens ← statement.tokens.dropPrefix? [.name "SET"]
  let (entries, rest) ← assignments? aliasName tokens
  if rest.isEmpty then statement.resolve? entries else none

/-- The columns that a statement merges a node by, those that it assigns if it creates the node, and
    those that it assigns if it finds one. -/
def merged? (statement : Statement) (aliasName label : String) :
    Option (List (String × Value) × List (String × Value) × List (String × Value)) := do
  let tokens ← statement.tokens.dropPrefix? [.name "MERGE"]
  let (entries, tokens) ← node? aliasName label tokens
  let (onCreate, tokens) ← branch? "CREATE" aliasName tokens
  let (onMatch, rest) ← branch? "MATCH" aliasName tokens
  if rest.isEmpty then
    return (← statement.resolve? entries, ← statement.resolve? onCreate,
      ← statement.resolve? onMatch)
  else none

theorem tokens_of_scans {statement : Statement} {tokens : List Token}
    (hscans : Scans statement.text tokens) : statement.tokens = tokens := by
  have hread := hscans [] (Text.ends_nil _)
  rwa [List.append_nil, show scan .blank [] = [] from rfl, List.append_nil] at hread

theorem resolve?_eq {statement : Statement}
    (hholds : List.Forall₂ statement.bindings.Holds entries columns) :
    statement.resolve? entries = some columns := by
  induction hholds with
  | nil => rfl
  | @cons entry column entries columns hentry _ ih =>
    rw [resolve?] at ih ⊢
    rw [List.mapM_cons, ih, hentry.get?_eq, hentry.column_eq]
    rfl

theorem isIdentifier_of_holds {bindings : Bindings}
    (hholds : List.Forall₂ bindings.Holds entries columns) :
    ∀ entry ∈ entries, Name.isIdentifier entry.2 = true := by
  induction hholds with
  | nil => exact List.forall_mem_nil _
  | cons hentry _ ih => exact List.forall_mem_cons.mpr ⟨hentry.isIdentifier, ih⟩

theorem ne_nil_of_holds {bindings : Bindings}
    (hholds : List.Forall₂ bindings.Holds entries columns) (hne : columns ≠ []) :
    entries ≠ [] := by
  rintro rfl
  cases hholds
  exact hne rfl

theorem created?_eq {statement : Statement} (halias : Name.isIdentifier aliasName = true)
    (hne : columns ≠ []) (htext : statement.text = "CREATE " ++ nodeText aliasName label entries)
    (hholds : List.Forall₂ statement.bindings.Holds entries columns) :
    statement.created? aliasName label = some columns := by
  have hentries := ne_nil_of_holds hholds hne
  have hcreate : Separates "CREATE " [.name "CREATE"] := fun _ => rfl
  have htokens : statement.tokens = [.name "CREATE"] ++ nodeTokens aliasName label entries := by
    apply tokens_of_scans
    rw [htext]
    exact hcreate.append (separates_nodeText halias hentries (isIdentifier_of_holds hholds)).scans
  have hnode := node?_nodeTokens aliasName label [] hentries
  rw [List.append_nil] at hnode
  rw [created?, htokens, List.dropPrefix?_append_of_beq _ (BEq.refl _)]
  simp [hnode, resolve?_eq hholds]

theorem assigned?_eq {statement : Statement} (halias : Name.isIdentifier aliasName = true)
    (hne : columns ≠ [])
    (htext : statement.text =
      "SET " ++ Text.commaJoin (entries.map (assignmentEntry aliasName)))
    (hholds : List.Forall₂ statement.bindings.Holds entries columns) :
    statement.assigned? aliasName = some columns := by
  have hentries := ne_nil_of_holds hholds hne
  have hset : Separates "SET " [.name "SET"] := fun _ => rfl
  have htokens : statement.tokens = [.name "SET"] ++ assignmentTokens aliasName entries := by
    apply tokens_of_scans
    rw [htext]
    exact hset.append (scans_commaJoin fun entry hmem =>
      scans_assignmentEntry halias (isIdentifier_of_holds hholds entry hmem))
  have hassignments : assignments? aliasName (assignmentTokens aliasName entries) =
      some (entries, []) := by
    have hread := entries?_intercalate [.name aliasName, .symbol '.'] '=' [] hentries (by simp)
    rwa [List.append_nil] at hread
  rw [assigned?, htokens, List.dropPrefix?_append_of_beq _ (BEq.refl _)]
  simp [hassignments, resolve?_eq hholds]

theorem merged?_eq {statement : Statement} {onCreate onMatch : List (String × String)}
    {created matched : List (String × Value)} (halias : Name.isIdentifier aliasName = true)
    (hne : columns ≠ [])
    (htext : statement.text = "MERGE " ++ nodeText aliasName label entries ++
      branchText "ON CREATE SET" aliasName onCreate ++
        branchText "ON MATCH SET" aliasName onMatch)
    (hholds : List.Forall₂ statement.bindings.Holds entries columns)
    (hcreated : List.Forall₂ statement.bindings.Holds onCreate created)
    (hmatched : List.Forall₂ statement.bindings.Holds onMatch matched) :
    statement.merged? aliasName label = some (columns, created, matched) := by
  have hentries := ne_nil_of_holds hholds hne
  have hmerge : Separates "MERGE " [.name "MERGE"] := fun _ => rfl
  have htokens : statement.tokens = [.name "MERGE"] ++ (nodeTokens aliasName label entries ++
      (branchTokens "CREATE" aliasName onCreate ++ branchTokens "MATCH" aliasName onMatch)) := by
    apply tokens_of_scans
    have hcreate : Scans (branchText "ON CREATE SET" aliasName onCreate)
        (branchTokens "CREATE" aliasName onCreate) :=
      scans_branchText halias (isIdentifier_of_holds hcreated) fun _ => rfl
    have hmatch : Scans (branchText "ON MATCH SET" aliasName onMatch)
        (branchTokens "MATCH" aliasName onMatch) :=
      scans_branchText halias (isIdentifier_of_holds hmatched) fun _ => rfl
    have hbranches := hcreate.append hmatch (ends_branchText _ _ _)
    rw [htext, String.append_assoc, String.append_assoc]
    exact hmerge.append
      ((separates_nodeText halias hentries (isIdentifier_of_holds hholds)).append hbranches)
  have hcreate := branch?_branchTokens "CREATE" aliasName onCreate
    (head?_branchTokens "MATCH" aliasName onMatch) (dropPrefix?_branchTokens (by decide) _ _)
  have hmatch : branch? "MATCH" aliasName (branchTokens "MATCH" aliasName onMatch) =
      some (onMatch, []) := by
    rw [← List.append_nil (branchTokens "MATCH" aliasName onMatch)]
    exact branch?_branchTokens _ _ _ (by simp) rfl
  rw [merged?, htokens, List.dropPrefix?_append_of_beq _ (BEq.refl _)]
  simp [node?_nodeTokens _ _ _ hentries, hcreate, hmatch, resolve?_eq hholds, resolve?_eq hcreated,
    resolve?_eq hmatched]

end Statement

end GraphQuery
