import GraphQuery.Proofs.Composition
import Mathlib.Data.List.TakeWhile

namespace GraphQuery

namespace Text

/-- Whether every run lies in a run of another set. The runs of both are gone through once, in
    order. -/
def CharRuns.within : CharRuns → CharRuns → Bool
  | [], _ => true
  | run :: runs, more =>
    match more.dropWhile fun other => other.2 < run.1 with
    | [] => false
    | other :: rest => other.1 ≤ run.1 && run.2 ≤ other.2 && within runs (other :: rest)

theorem CharRuns.contains_of_within {runs more : CharRuns} (hwithin : runs.within more = true)
    {c : Char} (hcontains : runs.contains c = true) : more.contains c = true := by
  induction runs generalizing more with
  | nil => cases hcontains
  | cons run runs ih =>
    rw [within] at hwithin
    split at hwithin
    · cases hwithin
    · rename_i other rest hrest
      have hsublist : (other :: rest).Sublist more := hrest ▸ List.dropWhile_sublist _
      simp only [Bool.and_eq_true, decide_eq_true_eq] at hwithin
      obtain ⟨⟨hlow, hhigh⟩, hwithin⟩ := hwithin
      have hmore : CharRuns.contains (other :: rest) c = true := by
        rcases Bool.or_eq_true_iff.mp hcontains with hfirst | hruns
        · simp only [Bool.and_eq_true, decide_eq_true_eq] at hfirst
          refine List.any_eq_true.mpr ⟨other, List.mem_cons_self, ?_⟩
          simp only [Bool.and_eq_true, decide_eq_true_eq]
          omega
        · exact ih hwithin hruns
      obtain ⟨run, hrun, hc⟩ := List.any_eq_true.mp hmore
      exact List.any_eq_true.mpr ⟨run, hsublist.subset hrun, hc⟩

theorem isAlphabetic_of_isLetter {c : Char} (hletter : isLetter c = true) :
    isAlphabetic c = true := by
  have hwithin : letterRuns.within alphabeticRuns = true := by
    decide +kernel
  unfold isLetter at hletter
  unfold isAlphabetic
  split at hletter
  · rwa [if_pos ‹_›]
  · rw [if_neg ‹_›]
    exact CharRuns.contains_of_within hwithin hletter

end Text

namespace Placeholder

theorem nameStart_of_isStart {c : Char} (hstart : isStart c = true) : Name.isStart c = true := by
  rcases Bool.or_eq_true_iff.mp hstart with hletter | hunderscore
  · exact Bool.or_eq_true_iff.mpr (.inl (Text.isAlphabetic_of_isLetter hletter))
  · exact Bool.or_eq_true_iff.mpr (.inr hunderscore)

theorem namePart_of_isPart {c : Char} (hpart : isPart c = true) : Name.isPart c = true := by
  simp only [isPart, Bool.or_eq_true] at hpart
  simp only [Name.isPart, Name.isAlphanumeric, Bool.or_eq_true]
  rcases hpart with (hletter | hnumeric) | hunderscore
  · exact .inl (.inl (Text.isAlphabetic_of_isLetter hletter))
  · exact .inl (.inr hnumeric)
  · exact .inr hunderscore

/-- The longest identifiers behind the dollar signs of a text, in order. Quotes mean nothing in the
    caller's own text. -/
def identifiers : List Char → List String
  | [] => []
  | c :: rest =>
    (if c = '$' then (Statement.leadingName? rest).toList else []) ++ identifiers rest

/-- What is read of an identifier as the name of a placeholder: as much of it as letters and
    numbers by their general category make up, and nothing if it begins with another character. -/
def read? (name : String) : Option String :=
  if name.toList.head?.any isStart then some (String.ofList (name.toList.takeWhile isPart))
  else none

theorem takeWhile_namePart (text : List Char) :
    (text.takeWhile Name.isPart).takeWhile isPart = text.takeWhile isPart := by
  rw [List.takeWhile_takeWhile]
  congr 1
  funext c
  simpa using namePart_of_isPart

theorem leadingName?_bind_read? (text : List Char) :
    (Statement.leadingName? text).bind read? =
      if text.head?.any isStart then some (String.ofList (text.takeWhile isPart)) else none := by
  cases text with
  | nil => rfl
  | cons c rest =>
    change (if Name.isStart c then _ else _ : Option String).bind read? =
      if isStart c then _ else _
    by_cases hname : Name.isStart c = true
    · -- The identifier begins with the same character and goes on at least as far.
      have hhead : ((c :: rest).takeWhile Name.isPart).head? = some c := by
        rw [List.takeWhile_cons_of_pos (Name.isPart_of_isStart hname), List.head?_cons]
      rw [if_pos hname, Option.bind_some, read?, String.toList_ofList, hhead, takeWhile_namePart]
      rfl
    · rw [if_neg hname, if_neg fun hstart => hname (nameStart_of_isStart hstart)]
      rfl

/-- A filter asks for the values of just the names that are read of its identifiers. -/
theorem names_eq_filterMap (text : List Char) :
    names text = (identifiers text).filterMap read? := by
  induction text with
  | nil => rfl
  | cons c rest ih =>
    rw [names, identifiers, List.filterMap_append, ← ih]
    by_cases hdollar : c = '$'
    · have hread : ((Statement.leadingName? rest).toList).filterMap read? =
          ((Statement.leadingName? rest).bind read?).toList := by
        cases Statement.leadingName? rest with
        | none => rfl
        | some name => cases hread : read? name <;> simp [hread]
      rw [if_pos hdollar, hread, leadingName?_bind_read?]
      by_cases hstart : rest.head?.any isStart = true
      · rw [if_pos ⟨hdollar, hstart⟩, if_pos hstart]
        rfl
      · rw [if_neg fun h => hstart h.2, if_neg hstart]
        rfl
    · rw [if_neg (fun h => hdollar h.1), if_neg hdollar]
      rfl

end Placeholder

namespace Predicate

variable {config : Config} {text written : String} {supplied : Bindings} {before after : Scope}

theorem checkSupplied_eq_ok_iff :
    checkSupplied config supplied = .ok () ↔
      ∀ name ∈ supplied.table.names, Name.isIdentifier name = true ∧
        Name.isAnonymous config.parameterStem name = false := by
  rw [checkSupplied, Except.forM_eq_ok_iff]
  refine forall₂_congr fun name _ => ?_
  unfold Name.callerPlaceholder
  cases Name.isIdentifier name with
  | false => exact ⟨nofun, fun hname => nomatch hname.1⟩
  | true =>
    cases Name.isAnonymous config.parameterStem name with
    | true => exact ⟨nofun, fun hname => nomatch hname.2⟩
    | false => exact ⟨fun _ => ⟨rfl, rfl⟩, fun _ => rfl⟩

theorem renderCustom_eq_ok_iff :
    renderCustom config text supplied before = .ok written after ↔
      Text.isBlank text = false ∧ checkSupplied config supplied = .ok () ∧
        (∀ name ∈ Placeholder.names text.toList, supplied.contains name = true) ∧
        Scope.absorb supplied before = .ok () after ∧ written = "(" ++ text ++ ")" := by
  rw [renderCustom, RenderM.unless_fail_eq_ok, RenderM.bind_eq_ok, Bool.not_eq_true]
  refine and_congr_right fun _ => ?_
  have hfind : (∀ name ∈ Placeholder.names text.toList, supplied.contains name = true) ↔
      (Placeholder.names text.toList).find? (fun name => !supplied.contains name) = none := by
    simp
  rw [hfind]
  generalize (Placeholder.names text.toList).find? (fun name => !supplied.contains name) = unbound?
  constructor
  · rintro ⟨_, middle, hlift, hrest⟩
    obtain ⟨hcheck, rfl⟩ := RenderM.lift_eq_ok.mp hlift
    cases unbound? with
    | some name => exact absurd hrest RenderM.fail_ne_ok
    | none =>
      obtain ⟨_, _, habsorb, hpure⟩ := RenderM.bind_eq_ok.mp hrest
      obtain ⟨rfl, rfl⟩ := RenderM.pure_eq_ok.mp hpure
      exact ⟨hcheck, rfl, habsorb, rfl⟩
  · rintro ⟨hcheck, rfl, habsorb, rfl⟩
    refine ⟨(), before, RenderM.lift_eq_ok.mpr ⟨hcheck, rfl⟩, ?_⟩
    exact RenderM.bind_eq_ok.mpr ⟨(), after, habsorb, RenderM.pure_eq_ok.mpr ⟨rfl, rfl⟩⟩

/-- A text in the caller's own words that is not blank, with values under names that the caller may
    bind, among them some that the text refers to. -/
structure IsClosed (config : Config) (text : String) (supplied : Bindings) (names : List String) :
    Prop where
  isBlank_eq : Text.isBlank text = false
  supplied_names : ∀ name ∈ supplied.table.names, Name.isIdentifier name = true ∧
    Name.isAnonymous config.parameterStem name = false
  bound : ∀ name ∈ names, supplied.contains name = true

/-- On its own, a condition in the caller's own words is written between parentheses, with just the
    values that come with it. -/
theorem render_custom_eq_ok_iff :
    (custom text supplied).render config {} = .ok written after ↔
      IsClosed config text supplied (Placeholder.names text.toList) ∧
        written = "(" ++ text ++ ")" ∧ after = ⟨0, supplied⟩ := by
  have hmerge : Bindings.merge .empty supplied = (supplied, none) :=
    Bindings.merge_empty_left supplied
  have habsorb : Scope.absorb supplied {} = .ok () after ↔ after = ⟨0, supplied⟩ := by
    simp [Scope.absorb_eq_ok_iff, hmerge]
  rw [render, renderCustom_eq_ok_iff, checkSupplied_eq_ok_iff, habsorb]
  constructor
  · rintro ⟨hblank, hsupplied, hbound, rfl, rfl⟩
    exact ⟨⟨hblank, hsupplied, hbound⟩, rfl, rfl⟩
  · rintro ⟨⟨hblank, hsupplied, hbound⟩, rfl, rfl⟩
    exact ⟨hblank, hsupplied, hbound, rfl, rfl⟩

/-- A condition in the caller's own words is accepted on its own exactly if it is closed, for as
    much as is read of the identifiers behind its dollar signs. These have to be supplied themselves
    where each is read as a whole. -/
theorem custom_accepted_iff (config : Config) (text : String) (supplied : Bindings) :
    ((∃ written after, (custom text supplied).render config {} = .ok written after) ↔
        IsClosed config text supplied
          ((Placeholder.identifiers text.toList).filterMap Placeholder.read?)) ∧
      ((∀ name ∈ Placeholder.identifiers text.toList, Placeholder.read? name = some name) →
        ((∃ written after, (custom text supplied).render config {} = .ok written after) ↔
          IsClosed config text supplied (Placeholder.identifiers text.toList))) ∧
      ∀ written after, (custom text supplied).render config {} = .ok written after →
        written = "(" ++ text ++ ")" ∧ after = ⟨0, supplied⟩ := by
  simp only [render_custom_eq_ok_iff, Placeholder.names_eq_filterMap]
  refine ⟨by simp, fun hwhole => ?_, fun written after hwritten => hwritten.2⟩
  rw [List.filterMap_congr hwhole, List.filterMap_some]
  simp

/-- The condition that an age is at least a bound of the caller's. -/
def olderThan (parameter : String) (supplied : List (String × Value)) : Predicate :=
  .custom ("p.age > $" ++ parameter) (.ofList supplied)

theorem olderThan_accepted :
    (∃ written after,
      (olderThan "low" [("low", .string "18")]).render (.plain {}) {} = .ok written after) ∧
    ∀ written after,
      (olderThan "low" [("low", .string "18")]).render (.plain {}) {} = .ok written after →
        written = "(p.age > $low)" := by
  obtain ⟨_, hclosed, hwritten⟩ :=
    custom_accepted_iff (.plain {}) ("p.age > $" ++ "low") (.ofList [("low", .string "18")])
  refine ⟨(hclosed (by decide +kernel)).mpr ⟨?_, ?_, ?_⟩, fun written after haccepted => ?_⟩
  · decide +kernel
  · decide +kernel
  · decide +kernel
  · exact (hwritten written after haccepted).1

/-- A letter number is alphabetic, and no letter: the placeholder is overlooked, and its value may
    be missing. A mark is alphabetic, and no letter either: the placeholder is cut off at it, and
    its value is not taken for one. -/
theorem olderThan_misread :
    (∃ after, (olderThan "Ⅷ" []).render (.plain {}) {} = .ok "(p.age > $Ⅷ)" after) ∧
      "Ⅷ" ∈ Placeholder.identifiers "p.age > $Ⅷ".toList ∧
      Name.isIdentifier "Ⅷ" = true ∧
      (∀ written after, (olderThan "नाम" [("नाम", .string "18")]).render (.plain {}) {} ≠
        .ok written after) ∧
      Placeholder.identifiers "p.age > $नाम".toList = ["नाम"] ∧
      Name.isIdentifier "नाम" = true ∧ Name.isAnonymous "param" "नाम" = false := by
  have hoverlooked : IsClosed (.plain {}) "p.age > $Ⅷ" (.ofList [])
      (Placeholder.names "p.age > $Ⅷ".toList) :=
    ⟨by decide +kernel, by decide +kernel, by decide +kernel⟩
  refine ⟨⟨_, render_custom_eq_ok_iff.mpr ⟨hoverlooked, rfl, rfl⟩⟩, ?_, ?_, ?_, ?_, ?_, ?_⟩
  · decide +kernel
  · decide +kernel
  · intro written after haccepted
    have hbound := (render_custom_eq_ok_iff.mp haccepted).1.bound "न" (by decide +kernel)
    revert hbound
    decide +kernel
  · decide +kernel
  · decide +kernel
  · decide +kernel

end Predicate

end GraphQuery
