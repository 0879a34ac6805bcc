import GraphQuery.Proofs.Scope
import GraphQuery.Proofs.Template.Query

namespace GraphQuery

open Template

variable {config : Config} {before middle after : Scope}

theorem detached_whereTemplate (templates : List Template) :
    Detached (whereTemplate templates) := by
  cases templates with
  | nil => exact detached_nil
  | cons first rest => exact detached_text _ rfl

theorem detached_orderTemplate (keys : List Template) : Detached (orderTemplate keys) := by
  unfold orderTemplate
  split
  · exact detached_nil
  · exact detached_text _ rfl

theorem detached_inlineTemplate (properties : List Template) :
    Detached (inlineTemplate properties) := by
  unfold inlineTemplate
  split
  · exact detached_nil
  · exact detached_text _ rfl

/-- A text that was written for a template, starting from one scope and ending in another: the
    anonymous parameters are numbered on from those that were taken before, the bindings grow by the
    parameters of the template, and these can be read back from the text. -/
structure Written (config : Config) (template : Template) (before : Scope) (text : String)
    (after : Scope) : Prop where
  text_eq : text = template.fill config.parameterStem before.count
  count_eq : after.count = before.count + template.count
  bindings : before.bindings.Extends (template.entries config.parameterStem before.count)
    after.bindings
  sound : template.Sound config.parameterStem

/-- A part that writes a template whenever it succeeds. -/
def Writes (config : Config) (part : RenderM String) (template : Template) : Prop :=
  ∀ before text after, part before = .ok text after → Written config template before text after

/-- Texts that were written one after the other, each for its own template. -/
inductive WrittenAll (config : Config) : List Template → Scope → List String → Scope → Prop where
  | nil {before : Scope} : WrittenAll config [] before [] before
  | cons {before middle after : Scope} {template : Template} {templates : List Template}
      {text : String} {texts : List String} (hfirst : Written config template before text middle)
      (hrest : WrittenAll config templates middle texts after) :
      WrittenAll config (template :: templates) before (text :: texts) after

/-- A part that writes several templates, one after the other, whenever it succeeds. -/
def WritesAll (config : Config) (part : RenderM (List String)) (templates : List Template) :
    Prop :=
  ∀ before texts after, part before = .ok texts after →
    WrittenAll config templates before texts after

namespace Written

theorem nil : Written config [] before "" before where
  text_eq := (fill_nil _ _).symm
  count_eq := rfl
  bindings := Bindings.Extends.refl _
  sound := .nil

theorem append {first second : Template} {text more : String}
    (hfirst : Written config first before text middle)
    (hsecond : Written config second middle more after) (hdetached : Detached second) :
    Written config (first ++ second) before (text ++ more) after where
  text_eq := by rw [fill_append, ← hfirst.count_eq, ← hfirst.text_eq, ← hsecond.text_eq]
  count_eq := by rw [count_append, ← Nat.add_assoc, ← hfirst.count_eq, hsecond.count_eq]
  bindings := by
    rw [entries_append, ← hfirst.count_eq]
    exact hfirst.bindings.trans hsecond.bindings
  sound := hfirst.sound.append hsecond.sound hdetached

theorem text_cons {s text : String} {template : Template} (hsilent : Statement.Silent s)
    (hrest : Written config template before text after) :
    Written config (.text s :: template) before (s ++ text) after where
  text_eq := by
    rw [fill_cons, hrest.text_eq]
    rfl
  count_eq := hrest.count_eq
  bindings := hrest.bindings
  sound := .text hsilent hrest.sound

theorem text {s : String} (hsilent : Statement.Silent s) :
    Written config [.text s] before s before := by
  simpa using nil.text_cons hsilent

/-- Text behind something else, which it has to be kept apart from. -/
theorem append_text {template : Template} {text s : String}
    (hfirst : Written config template before text after) (hsilent : Statement.Silent s)
    (hbreaks : breaksOff s = true) :
    Written config (template ++ [.text s]) before (text ++ s) after :=
  hfirst.append (Written.text hsilent) (detached_text [] hbreaks)

/-- Nothing at all may stand behind anything. -/
theorem append_empty {template : Template} {text : String}
    (hfirst : Written config template before text after) :
    Written config (template ++ [.text ""]) before (text ++ "") after := by
  refine hfirst.append (Written.text Statement.silent_empty) fun stem n c hmem => ?_
  rw [fill_singleton] at hmem
  cases hmem

theorem enclosed {left right text : String} {template : Template}
    (hinner : Written config template before text after) (hleft : Statement.Silent left)
    (hright : Statement.Silent right) (hbreaks : breaksOff right = true) :
    Written config (enclosed left right template) before (left ++ text ++ right) after := by
  rw [String.append_assoc]
  exact (hinner.append_text hright hbreaks).text_cons hleft

/-- Text that was checked and takes no parameter. -/
theorem checked {text : Except QueryError String} {s : String} (htext : text = .ok s)
    (hsilent : Statement.Silent s) : Written config (checked text) before s before := by
  rw [htext]
  exact Written.text hsilent

theorem value {v : Value} {text : String}
    (hbind : Scope.bindAnonymous config v before = .ok text after) :
    Written config [.value v] before text after := by
  obtain ⟨htext, hcount, hextends⟩ := Scope.bindAnonymous_eq_ok hbind
  exact ⟨htext.trans (fill_singleton before.count (.value v)).symm, hcount, hextends,
    .value detached_nil .nil⟩

theorem shared {aliasName column text : String} {v : Value}
    (halias : Name.isIdentifier aliasName = true)
    (hbind : Scope.bindSemantic aliasName column v before = .ok text after) :
    Written config [.shared aliasName column v] before text after := by
  obtain ⟨htext, hcount, hextends⟩ := Scope.bindSemantic_eq_ok hbind
  exact ⟨htext.trans (fill_singleton before.count (.shared aliasName column v)).symm, hcount,
    hextends, .shared halias detached_nil .nil⟩

theorem caller {component name text : String}
    (hname : Name.callerPlaceholder config component name = .ok text) :
    Written config [.caller name] before text before := by
  obtain ⟨hidentifier, hanonymous, rfl⟩ := Name.of_callerPlaceholder hname
  exact ⟨(fill_singleton before.count (.caller name)).symm, rfl, Bindings.Extends.refl _,
    .caller hidentifier hanonymous detached_nil .nil⟩

/-- Text in the caller's own words, whose values are added to those around it. -/
theorem verbatim {text : String} {bindings : Bindings} (hcount : after.count = before.count)
    (hextends : before.bindings.Extends bindings.table after.bindings) :
    Written config [.verbatim text bindings] before text after where
  text_eq := (fill_singleton before.count (.verbatim text bindings)).symm
  count_eq := hcount
  bindings := by simpa [entries, numbered, Piece.entries] using hextends
  sound := .verbatim .nil

/-- Two conditions in parentheses, with an operator between them. -/
theorem joined {first second : Template} {operator left right : String}
    (hleft : Written config first before left middle)
    (hright : Written config second middle right after) (hoperator : Statement.Silent operator)
    (hbreaks : breaksOff operator = true) :
    Written config (.text "(" :: (first ++ .text operator :: (second ++ [.text ")"]))) before
      ("(" ++ left ++ operator ++ right ++ ")") after := by
  have hlast := hright.append_text (Statement.silent_of_bare ")" rfl) rfl
  have hboth := (hleft.append (hlast.text_cons hoperator) (detached_text _ hbreaks)).text_cons
    (Statement.silent_of_bare "(" rfl)
  simpa only [String.append_assoc] using hboth

/-- A value behind something else, with an operator in between. -/
theorem append_value {template : Template} {left operator right : String} {v : Value}
    (hleft : Written config template before left middle)
    (hbind : Scope.bindAnonymous config v middle = .ok right after)
    (hoperator : Statement.Silent operator) (hbreaks : breaksOff operator = true) :
    Written config (template ++ [.text operator, .value v]) before (left ++ operator ++ right)
      after := by
  rw [String.append_assoc]
  exact hleft.append ((Written.value hbind).text_cons hoperator) (detached_text _ hbreaks)

/-- A part that is written with bindings of its own, which are then added to those around it, is
    written as if it had been written in place. -/
theorem isolated {template : Template} {part : RenderM String} {fragment : Fragment}
    (hpart : Writes config part template)
    (hisolated : Scope.isolated part before = .ok fragment middle)
    (habsorb : Scope.absorb fragment.bindings middle = .ok () after) :
    Written config template before fragment.text after := by
  obtain ⟨inner, hinner, hbindings, rfl⟩ := Scope.isolated_eq_ok hisolated
  obtain ⟨hcount, hextends⟩ := Scope.absorb_eq_ok habsorb
  have hwritten := hpart _ _ _ hinner
  rw [hbindings] at hextends
  exact ⟨hwritten.text_eq, hcount.trans hwritten.count_eq,
    Bindings.Extends.of_table hwritten.bindings hextends, hwritten.sound⟩

end Written

namespace WrittenAll

theorem append {first second : List Template} {texts more : List String}
    (hfirst : WrittenAll config first before texts middle)
    (hsecond : WrittenAll config second middle more after) :
    WrittenAll config (first ++ second) before (texts ++ more) after := by
  induction hfirst with
  | nil => exact hsecond
  | cons htext _ ih => exact .cons htext (ih hsecond)

theorem separated {separator : String} {templates : List Template} {texts : List String}
    (hwritten : WrittenAll config templates before texts after)
    (hsilent : Statement.Silent separator) (hbreaks : breaksOff separator = true) :
    Written config (separated separator templates) before (separator.intercalate texts) after := by
  induction hwritten with
  | nil => simpa [Template.separated] using Written.nil
  | cons hfirst hrest ih =>
    cases hrest with
    | nil => simpa [Template.separated] using hfirst
    | cons hsecond hrest =>
      rw [String.intercalate_cons_cons, String.append_assoc]
      exact hfirst.append (ih.text_cons hsilent) (detached_text _ hbreaks)

theorem commaJoin {templates : List Template} {texts : List String}
    (hwritten : WrittenAll config templates before texts after) :
    Written config (Template.separated ", " templates) before (Text.commaJoin texts) after :=
  hwritten.separated (Statement.silent_of_bare ", " rfl) rfl

/-- Conditions are joined from the left, as their templates are. -/
theorem foldl_both {first : Template} {templates : List Template} {text : String}
    {texts : List String} (hfirst : Written config first before text middle)
    (hrest : WrittenAll config templates middle texts after) :
    Written config (templates.foldl both first) before
      (texts.foldl (fun all next => "(" ++ all ++ ") AND (" ++ next ++ ")") text) after := by
  induction hrest generalizing first text with
  | nil => exact hfirst
  | cons hnext hrest ih =>
    exact ih (Written.joined hfirst hnext (Statement.silent_of_bare ") AND (" rfl) rfl)

theorem whereText {templates : List Template} {texts : List String}
    (hwritten : WrittenAll config templates before texts after) :
    Written config (whereTemplate templates) before (whereText texts) after := by
  cases hwritten with
  | nil => exact Written.nil
  | cons hfirst hrest =>
    exact (foldl_both hfirst hrest).text_cons (Statement.silent_of_bare _ rfl)

theorem orderText {templates : List Template} {texts : List String}
    (hwritten : WrittenAll config templates before texts after) :
    Written config (orderTemplate templates) before (orderText texts) after := by
  cases hwritten with
  | nil => exact Written.nil
  | cons hfirst hrest =>
    exact (commaJoin (.cons hfirst hrest)).text_cons (Statement.silent_of_bare _ rfl)

theorem inlineText {templates : List Template} {texts : List String}
    (hwritten : WrittenAll config templates before texts after) :
    Written config (inlineTemplate templates) before (inlineText texts) after := by
  cases hwritten with
  | nil => exact Written.nil
  | cons hfirst hrest =>
    exact Written.enclosed (commaJoin (.cons hfirst hrest))
      (Statement.silent_of_bare " \x7b" rfl) (Statement.silent_of_bare "\x7d" rfl) rfl

end WrittenAll

namespace WritesAll

theorem nil : WritesAll config (pure []) [] := by
  intro before texts after hrender
  obtain ⟨rfl, rfl⟩ := RenderM.pure_eq_ok.mp hrender
  exact .nil

theorem cons {part : RenderM String} {rest : RenderM (List String)} {template : Template}
    {templates : List Template} (hpart : Writes config part template)
    (hrest : WritesAll config rest templates) :
    WritesAll config (do let text ← part; return text :: (← rest)) (template :: templates) := by
  intro before texts after hrender
  simp only [RenderM.bind_eq_ok, RenderM.pure_eq_ok] at hrender
  obtain ⟨text, _, hfirst, texts, _, hmore, rfl, rfl⟩ := hrender
  exact .cons (hpart _ _ _ hfirst) (hrest _ _ _ hmore)

theorem append {part rest : RenderM (List String)} {templates more : List Template}
    (hpart : WritesAll config part templates) (hrest : WritesAll config rest more) :
    WritesAll config (do let texts ← part; return texts ++ (← rest)) (templates ++ more) := by
  intro before texts after hrender
  simp only [RenderM.bind_eq_ok, RenderM.pure_eq_ok] at hrender
  obtain ⟨texts, _, hfirst, further, _, hmore, rfl, rfl⟩ := hrender
  exact (hpart _ _ _ hfirst).append (hrest _ _ _ hmore)

end WritesAll

end GraphQuery
