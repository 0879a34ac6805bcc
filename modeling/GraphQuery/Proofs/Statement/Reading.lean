import GraphQuery.Proofs.Name
import GraphQuery.Query.Compile

namespace GraphQuery

namespace Statement

/-- Where a reader of a statement stands: outside of all quotes, in a name between back-quotes, in a
    literal between single quotes, or right behind a backslash of a literal. -/
inductive Context where
  | plain
  | backQuoted
  | quoted
  | escaped
  deriving DecidableEq

/-- Where a reader stands behind one more character. A doubled back-quote leaves the name it belongs
    to and enters it again at once. -/
def Context.next : Context → Char → Context
  | .plain, c => if c = '\x60' then .backQuoted else if c = '\'' then .quoted else .plain
  | .backQuoted, c => if c = '\x60' then .plain else .backQuoted
  | .quoted, c => if c = '\\' then .escaped else if c = '\'' then .plain else .quoted
  | .escaped, _ => .quoted

/-- The longest identifier that a text begins with, if it begins with one. -/
def leadingName? (text : List Char) : Option String :=
  if text.head?.any Name.isStart then some (String.ofList (text.takeWhile Name.isPart)) else none

/-- The names behind the dollar signs of a text that stand outside of quotes, in order. A dollar
    sign without a name behind it stands for itself. -/
def namesFrom : Context → List Char → List String
  | _, [] => []
  | context, c :: rest =>
    (if context = .plain ∧ c = '$' then (leadingName? rest).toList else []) ++
      namesFrom (context.next c) rest

/-- The names of the parameters that a statement refers to, in the order of its text. -/
def placeholders (statement : Statement) : List String :=
  namesFrom .plain statement.text.toList

/-- Whether a character means nothing special outside of quotes. -/
def isBare (c : Char) : Bool :=
  c ≠ '$' && c ≠ '\x60' && c ≠ '\''

/-- A text that holds no parameters and closes all quotes that it opens, so that whatever follows it
    is read as if it stood alone. -/
def Silent (text : String) : Prop :=
  ∀ rest, namesFrom .plain (text.toList ++ rest) = namesFrom .plain rest

/-- A text that does not go on with the name it is written behind. -/
def Detached (text : List Char) : Prop :=
  ∀ c ∈ text.head?, Name.isPart c = false

theorem isBare_of_isPart {c : Char} (hpart : Name.isPart c = true) : isBare c = true := by
  have hne : ∀ special, Name.isPart special = false → c ≠ special := by
    rintro special hspecial rfl
    exact Bool.false_ne_true (hspecial.symm.trans hpart)
  have hdollar := hne '$' (by decide)
  have hback := hne '\x60' (by decide)
  have hsingle := hne '\'' (by decide)
  simp [isBare, hdollar, hback, hsingle]

theorem namesFrom_bare_append {text : List Char} (hbare : ∀ c ∈ text, isBare c = true)
    (rest : List Char) : namesFrom .plain (text ++ rest) = namesFrom .plain rest := by
  induction text with
  | nil => rfl
  | cons c text ih =>
    have hc := hbare c List.mem_cons_self
    simp only [isBare, Bool.and_eq_true, decide_eq_true_eq] at hc
    obtain ⟨⟨hdollar, hback⟩, hsingle⟩ := hc
    rw [List.cons_append, namesFrom, if_neg (fun h => hdollar h.2), List.nil_append, Context.next,
      if_neg hback, if_neg hsingle]
    exact ih fun d hmem => hbare d (List.mem_cons_of_mem c hmem)

theorem silent_of_bare (text : String) (hbare : text.toList.all isBare = true) :
    Silent text :=
  fun rest => namesFrom_bare_append (List.all_eq_true.mp hbare) rest

theorem silent_empty : Silent "" :=
  silent_of_bare "" rfl

theorem Silent.append {first second : String} (hfirst : Silent first) (hsecond : Silent second) :
    Silent (first ++ second) := by
  intro rest
  rw [String.toList_append, List.append_assoc, hfirst, hsecond]

theorem silent_of_parts {text : String} (hparts : ∀ c ∈ text.toList, Name.isPart c = true) :
    Silent text :=
  silent_of_bare text (List.all_eq_true.mpr fun c hmem => isBare_of_isPart (hparts c hmem))

theorem silent_of_isIdentifier {name : String} (hname : Name.isIdentifier name = true) :
    Silent name :=
  silent_of_parts fun _ hmem => Name.isPart_of_isIdentifier hname hmem

theorem silent_toString (n : Nat) : Silent (toString n) :=
  silent_of_parts fun _ hmem => Name.isPart_of_isAlphanumeric
    (Name.isAlphanumeric_of_isDigit (Name.isDigit_of_mem_toString hmem))

/-- Texts with silent ones in between are silent if all of them are. -/
theorem silent_intercalate {separator : String} {items : List String}
    (hseparator : Silent separator) (hitems : ∀ item ∈ items, Silent item) :
    Silent (separator.intercalate items) := by
  induction items with
  | nil =>
    rw [String.intercalate_nil]
    exact silent_empty
  | cons first items ih =>
    have hfirst := hitems first List.mem_cons_self
    have hrest := ih fun item hmem => hitems item (List.mem_cons_of_mem first hmem)
    cases items with
    | nil => rwa [String.intercalate_singleton]
    | cons second items =>
      rw [String.intercalate_cons_cons]
      exact (hfirst.append hseparator).append hrest

theorem silent_commaJoin {items : List String} (hitems : ∀ item ∈ items, Silent item) :
    Silent (Text.commaJoin items) :=
  silent_intercalate (silent_of_bare _ rfl) hitems

theorem silent_of_isProcedure {name : String} (hname : Name.isProcedure name = true) :
    Silent name := by
  have hjoin : name = ".".intercalate ((name.toList.splitOn '.').map String.ofList) := by
    apply String.toList_injective
    rw [String.toList_intercalate, List.map_map]
    simp [Function.comp_def]
  rw [hjoin]
  refine silent_intercalate (silent_of_bare _ rfl) fun item hmem => ?_
  obtain ⟨part, hpart, rfl⟩ := List.mem_map.mp hmem
  exact silent_of_isIdentifier (List.all_eq_true.mp hname part hpart)

/-- Between back-quotes nothing is read, and a doubled back-quote leads back between them. -/
theorem namesFrom_backQuoted_append (name rest : List Char) :
    namesFrom .backQuoted
      (name.flatMap (fun c => if c = '\x60' then [c, c] else [c]) ++ '\x60' :: rest) =
        namesFrom .plain rest := by
  induction name with
  | nil => simp [namesFrom, Context.next]
  | cons c name ih =>
    by_cases hback : c = '\x60'
    · subst hback
      rw [List.flatMap_cons, if_pos rfl, List.append_assoc]
      simpa [namesFrom, Context.next] using ih
    · rw [List.flatMap_cons, if_neg hback, List.append_assoc]
      simpa [namesFrom, Context.next, hback] using ih

theorem silent_backQuoted (name : String) : Silent (Name.backQuoted name) := by
  intro rest
  have hread := namesFrom_backQuoted_append name.toList rest
  simpa [Name.backQuoted, namesFrom, Context.next] using hread

theorem silent_written (name : String) : Silent (Name.written name) := by
  unfold Name.written
  split
  · rename_i hname
    exact silent_of_isIdentifier hname
  · exact silent_backQuoted name

/-- Within a literal a character is read past as it is written there, whatever it is. -/
theorem namesFrom_quoted_escape (c : Char) (rest : List Char) :
    namesFrom .quoted (Text.escapeQuoted c ++ rest) = namesFrom .quoted rest := by
  have hhex : ∀ (digits : List Char), (∀ d ∈ digits, Name.isAlphanumeric d = true) →
      namesFrom .quoted (digits ++ rest) = namesFrom .quoted rest := by
    intro digits hdigits
    induction digits with
    | nil => rfl
    | cons d digits ih =>
      have hd := hdigits d List.mem_cons_self
      have hbackslash : d ≠ '\\' := by
        rintro rfl
        exact absurd hd (by decide)
      have hsingle : d ≠ '\'' := by
        rintro rfl
        exact absurd hd (by decide)
      have hrest := ih fun d' hmem => hdigits d' (List.mem_cons_of_mem d hmem)
      simpa [namesFrom, Context.next, hbackslash, hsingle] using hrest
  unfold Text.escapeQuoted
  split
  · simp [namesFrom, Context.next]
  · simp [namesFrom, Context.next]
  · simp [namesFrom, Context.next]
  · simp [namesFrom, Context.next]
  · simp [namesFrom, Context.next]
  · rename_i hbackslash hsingle _ _ _
    split
    · have hcode := hhex (Text.hex 4 c.toNat) fun d hmem => by
        rcases List.mem_append.mp hmem with hzero | hdigit
        · rw [List.eq_of_mem_replicate hzero]
          decide
        · exact Name.isAlphanumeric_of_mem_toDigits hdigit
      simpa [namesFrom, Context.next] using hcode
    · simp [namesFrom, Context.next, show c ≠ '\\' from hbackslash, show c ≠ '\'' from hsingle]

theorem silent_quoted (s : String) : Silent (Text.quoted s) := by
  intro rest
  have hbody : ∀ cs : List Char,
      namesFrom .quoted (cs.flatMap Text.escapeQuoted ++ '\'' :: rest) = namesFrom .plain rest := by
    intro cs
    induction cs with
    | nil => simp [namesFrom, Context.next]
    | cons c cs ih => rw [List.flatMap_cons, List.append_assoc, namesFrom_quoted_escape, ih]
  simpa [Text.quoted, namesFrom, Context.next] using hbody s.toList

theorem leadingName?_append {name : String} {rest : List Char}
    (hname : Name.isIdentifier name = true) (hrest : Detached rest) :
    leadingName? (name.toList ++ rest) = some name := by
  obtain ⟨c, parts, hcons, hstart, _⟩ := Name.isIdentifier_iff.mp hname
  have htake : (name.toList ++ rest).takeWhile Name.isPart = name.toList := by
    rw [List.takeWhile_append_of_pos fun d hmem => Name.isPart_of_isIdentifier hname hmem]
    cases rest with
    | nil => simp
    | cons d rest =>
      rw [List.takeWhile_cons_of_neg (by simp [hrest d rfl]), List.append_nil]
  unfold leadingName?
  rw [htake, String.ofList_toList, if_pos (by simp [hcons, hstart])]

theorem dropWhile_append_of_isIdentifier {name : String} {rest : List Char}
    (hname : Name.isIdentifier name = true) (hrest : Detached rest) :
    (name.toList ++ rest).dropWhile Name.isPart = rest := by
  rw [List.dropWhile_append_of_pos fun d hmem => Name.isPart_of_isIdentifier hname hmem]
  cases rest with
  | nil => rfl
  | cons d rest => exact List.dropWhile_cons_of_neg (by simp [hrest d rfl])

/-- The place of a parameter is read as its name wherever that name cannot be taken for a longer
    one. -/
theorem namesFrom_placeholder {name : String} {rest : List Char}
    (hname : Name.isIdentifier name = true) (hrest : Detached rest) :
    namesFrom .plain ((Name.placeholder name).toList ++ rest) =
      name :: namesFrom .plain rest := by
  have hsilent := silent_of_isIdentifier hname rest
  have hfront : (Name.placeholder name).toList ++ rest = '$' :: (name.toList ++ rest) := by
    simp [Name.placeholder]
  rw [hfront, namesFrom, if_pos ⟨rfl, rfl⟩, leadingName?_append hname hrest]
  simpa [Context.next] using hsilent

end Statement

end GraphQuery
