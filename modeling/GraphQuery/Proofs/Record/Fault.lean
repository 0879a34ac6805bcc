import GraphQuery.Proofs.Record.Normal

namespace GraphQuery

theorem Except.bind_eq_error {ε α β : Type} {first : Except ε α} {next : α → Except ε β}
    {error : ε} :
    (first >>= next) = .error error ↔
      first = .error error ∨ ∃ a, first = .ok a ∧ next a = .error error := by
  cases first <;> simp [bind, Except.bind]

namespace Record

/-- A part of a value: an item of a list at its position, which has to be of a kind, or what was
    found in the column of a property, which may be missing. -/
inductive Part where
  | item (position : Nat) (v : Value) (kind : Kind)
  | field (property : Property) (found : Option Value)

namespace Part

/-- The step to a part as it is written in messages. A field goes by the name of its property. -/
def text : Part → String
  | .item position _ _ => "[" ++ toString position ++ "]"
  | .field property _ => "." ++ property.name

/-- The value that was found. -/
def found? : Part → Option Value
  | .item _ v _ => some v
  | .field _ found => found

/-- The kind that a part has to be of. -/
def kind : Part → Kind
  | .item _ _ kind => kind
  | .field property _ => property.kind

/-- Whether a part may be absent. -/
def isOptional : Part → Bool
  | .item .. => false
  | .field property _ => property.isOptional

/-- What a part is converted to, under the path to it. -/
def convert (path : Path) : Part → Except DecodeError Json
  | .item _ v kind => coercePresent (fun path item => coerce path item kind) path v
  | .field property none =>
    if property.isOptional then .ok .null else .error (.missingColumn property.columnName)
  | .field property (some v) =>
    if v.isNull then if property.isOptional then .ok .null else .error (.nullViolation path)
    else coerce path v property.kind

/-- A part can be converted. -/
def Converts (part : Part) : Prop :=
  ∀ path, ∃ json, part.convert path = .ok json

end Part

/-- The items of a list from a position on. -/
def itemParts (kind : Kind) (position : Nat) (items : List Value) : List Part :=
  (items.zipIdx position).map fun (item, position) => .item position item kind

/-- The columns of properties. -/
def fieldParts (fields : Fields Value) (properties : List Property) : List Part :=
  properties.map fun property => .field property (fields.get? property.columnName)

/-- The parts of a value of a kind, in order. A value that is not of the kind, whatever its parts
    are, has none. -/
def parts? (v : Value) : Kind → Option (List Part)
  | .list inner => v.asList?.map (itemParts inner 0)
  | .vector dimension =>
    (v.asList?.filter fun items => items.length = dimension).map (itemParts .float 0)
  | .struct properties => v.asFields?.map fun fields => fieldParts fields properties
  | kind => (v.coerceScalar? kind).map fun _ => []

/-- A part of a value is come to: all parts before it can be converted. -/
def Reaches (v : Value) (kind : Kind) (part : Part) : Prop :=
  ∃ before after, parts? v kind = some (before ++ part :: after) ∧
    ∀ other ∈ before, other.Converts

/-- Steps that lead from a value of a kind to one of its parts, which is not absent. All that is to
    be converted before it, at any level, can be. -/
inductive Leads : Value → Kind → List Part → Value → Kind → Prop
  | here (v : Value) (kind : Kind) : Leads v kind [] v kind
  | step {v w u : Value} {kind k : Kind} {part : Part} {steps : List Part}
      (hreaches : Reaches v kind part) (hfound : part.found? = some w) (hpresent : w.isNull = false)
      (hleads : Leads w part.kind steps u k) : Leads v kind (part :: steps) u k

/-- The path that goes on with some steps. -/
def along (path : Path) (steps : List Part) : Path :=
  path ++ String.join (steps.map Part.text)

/-- How a value that is not of a kind is described: a list that has not the length of a vector by
    its own length, and any other value by its kind and its text. -/
def described (v : Value) (kind : Kind) : String :=
  match kind, v.asList? with
  | .vector _, some items => s!"LIST of {items.length} elements"
  | _, _ => v.kindName ++ " " ++ v.text

/-- What is wrong at the first place of a value that does not fit its kind: the value there is not
    of the kind that it has to be of, or it is absent, or its column is missing. -/
inductive Fault (path : Path) (v : Value) (kind : Kind) : DecodeError → Prop
  | misfit {steps : List Part} {u : Value} {k : Kind} (hleads : Leads v kind steps u k)
      (hpresent : u.isNull = false) (hmisfit : parts? u k = none) :
      Fault path v kind (.mismatch (along path steps) k.typeName (described u k))
  | absent {steps : List Part} {u : Value} {k : Kind} {part : Part}
      (hleads : Leads v kind steps u k) (hreaches : Reaches u k part)
      (hfound : part.found? = some .null) (hrequired : part.isOptional = false) :
      Fault path v kind (.nullViolation (along path (steps ++ [part])))
  | missing {steps : List Part} {u : Value} {k : Kind} {property : Property}
      (hleads : Leads v kind steps u k) (hreaches : Reaches u k (.field property none))
      (hrequired : property.isOptional = false) :
      Fault path v kind (.missingColumn property.columnName)

/-- The first property is converted before the others. -/
theorem coerceFields_cons (path : Path) (fields : Fields Value) (property : Property)
    (properties : List Property) :
    coerceFields path.field fields.get? (property :: properties) = (do
      let part := Part.field property (fields.get? property.columnName)
      let json ← part.convert (path ++ part.text)
      return (property.name, json) :: (← coerceFields path.field fields.get? properties)) := by
  obtain ⟨name, column, kind, isPrimaryKey, isUnique, isOptional⟩ := property
  have hpath : path.field name = path ++ ("." ++ name) := String.append_assoc
  rw [coerceFields, PropertyOf.columnName, hpath]
  cases fields.get? (column.getD name) with
  | none => cases isOptional <;> rfl
  | some v =>
    simp only [Part.convert, Part.text]
    cases v.isNull <;> cases isOptional <;> rfl

/-- What a conversion gives does not depend on the path, which serves messages only. -/
def PathFree {α β : Type} (convert : Path → α → Except DecodeError β) : Prop :=
  ∀ path other a b, convert path a = .ok b → convert other a = .ok b

theorem pathFree_require {α : Type} (kind : Kind) (read : Value → Option α) :
    PathFree fun path v => require path kind v (read v) :=
  fun _ _ _ _ hread => require_eq_ok.mpr (require_eq_ok.mp hread)

theorem PathFree.present {convert : Path → Value → Except DecodeError Json}
    (hconvert : PathFree convert) : PathFree (coercePresent convert) := by
  intro path other v json hpresent
  unfold coercePresent at hpresent ⊢
  cases hnull : v.isNull with
  | true =>
    rw [hnull, if_pos rfl] at hpresent
    cases hpresent
  | false =>
    rw [hnull, if_neg Bool.false_ne_true] at hpresent
    exact hconvert _ _ _ _ hpresent

theorem PathFree.items {convert : Path → Value → Except DecodeError Json}
    (hconvert : PathFree convert) : PathFree fun path items => path.convertItems convert items := by
  intro path other items converted hitems
  unfold Path.convertItems at hitems ⊢
  generalize 0 = position at hitems ⊢
  induction items generalizing position converted with
  | nil => exact hitems
  | cons item items ih =>
    simp only [Path.convertFrom, Except.bind_eq_ok] at hitems ⊢
    obtain ⟨json, hitem, more, hmore, heq⟩ := hitems
    exact ⟨json, hconvert _ _ _ _ hitem, more, ih _ _ hmore, heq⟩

theorem pathFree_field (property : Property)
    (hcoerce : PathFree fun path v => coerce path v property.kind) :
    PathFree fun path found => (Part.field property found).convert path := by
  intro path other found json hconvert
  cases found with
  | none => exact hconvert
  | some v =>
    simp only [Part.convert] at hconvert ⊢
    cases hnull : v.isNull with
    | true =>
      cases hoptional : property.isOptional with
      | true => simpa [hnull, hoptional] using hconvert
      | false => simp [hnull, hoptional] at hconvert
    | false =>
      rw [hnull, if_neg Bool.false_ne_true] at hconvert
      exact hcoerce _ _ _ _ hconvert

mutual

theorem pathFree_coerce (kind : Kind) : PathFree fun path v => coerce path v kind := by
  intro path other v json hcoerce
  refine coerce_eq_ok_iff.mpr ?_
  match kind, json, coerce_eq_ok_iff.mp hcoerce with
  | _, _, .scalar hscalar => exact .scalar hscalar
  | .list inner, _, .list hlist hitems =>
    exact .list hlist ((pathFree_coerce inner).present.items _ _ _ _ hitems)
  | .vector _, _, .vector hlist hdimension hitems =>
    exact .vector hlist hdimension ((pathFree_require .float _).present.items _ _ _ _ hitems)
  | .struct properties, _, .struct hfields hentries =>
    exact .struct hfields (pathFree_coerceFields properties _ _ _ _ hentries)

theorem pathFree_coerceFields : ∀ properties : List Property,
    PathFree fun (path : Path) (fields : Fields Value) =>
      coerceFields path.field fields.get? properties
  | [] => fun _ _ _ _ hcoerce => hcoerce
  | ⟨name, column, kind, isPrimaryKey, isUnique, isOptional⟩ :: properties => by
    intro path other fields entries hcoerce
    simp only [coerceFields_cons, Except.bind_eq_ok] at hcoerce ⊢
    obtain ⟨json, hjson, more, hmore, heq⟩ := hcoerce
    exact ⟨json, pathFree_field _ (pathFree_coerce kind) _ _ _ _ hjson, more,
      pathFree_coerceFields properties _ _ _ _ hmore, heq⟩

end

/-- A part can be converted under every path if it can be under one. -/
theorem Part.converts_iff {part : Part} (path : Path) :
    part.Converts ↔ ∃ json, part.convert path = .ok json := by
  refine ⟨fun hconverts => hconverts path, fun ⟨json, hjson⟩ other => ⟨json, ?_⟩⟩
  cases part with
  | item position v kind => exact (pathFree_coerce kind).present _ _ _ _ hjson
  | field property found =>
    exact pathFree_field property (pathFree_coerce property.kind) _ _ _ _ hjson

/-- The first of some parts that cannot be converted fails with an error. -/
def FailsFirst (path : Path) (parts : List Part) (error : DecodeError) : Prop :=
  ∃ before part after, parts = before ++ part :: after ∧ (∀ other ∈ before, other.Converts) ∧
    part.convert (path ++ part.text) = .error error

section Errors

variable {path : Path} {v : Value} {kind : Kind} {error : DecodeError}

theorem not_failsFirst_nil : ¬ FailsFirst path [] error := by
  rintro ⟨before, part, after, heq, _⟩
  simp at heq

theorem failsFirst_cons {part : Part} {parts : List Part} :
    FailsFirst path (part :: parts) error ↔
      part.convert (path ++ part.text) = .error error ∨
        (∃ json, part.convert (path ++ part.text) = .ok json) ∧ FailsFirst path parts error := by
  rw [← Part.converts_iff]
  constructor
  · rintro ⟨_ | ⟨first, before⟩, other, after, heq, hbefore, hother⟩
    · cases heq
      exact .inl hother
    · cases heq
      obtain ⟨hfirst, hbefore⟩ := List.forall_mem_cons.mp hbefore
      exact .inr ⟨hfirst, before, other, after, rfl, hbefore, hother⟩
  · rintro (hpart | ⟨hconverts, before, other, after, rfl, hbefore, hother⟩)
    · exact ⟨[], part, parts, rfl, List.forall_mem_nil _, hpart⟩
    · exact ⟨part :: before, other, after, rfl, List.forall_mem_cons.mpr ⟨hconverts, hbefore⟩,
        hother⟩

/-- What is made of a first and of further results fails where one of the two steps does. -/
theorem bind_map_eq_error {α β γ : Type} {first : Except DecodeError α}
    {rest : Except DecodeError β} {join : α → β → γ} :
    (do return join (← first) (← rest)) = .error error ↔
      first = .error error ∨ (∃ a, first = .ok a) ∧ rest = .error error := by
  cases first <;> cases rest <;> simp [bind, Except.bind, pure, Except.pure]

/-- Items are converted up to the first that cannot be. -/
theorem convertItems_eq_error_iff (kind : Kind) {position : Nat} {items : List Value} :
    path.convertFrom (coercePresent fun path item => coerce path item kind) position items =
        .error error ↔
      FailsFirst path (itemParts kind position items) error := by
  induction items generalizing position with
  | nil => exact iff_of_false (fun hnil => by cases hnil) not_failsFirst_nil
  | cons item items ih =>
    have hpath : path.item position = path ++ (Part.item position item kind).text := by
      simp only [Path.item, Part.text, String.append_assoc]
    have hparts : itemParts kind position (item :: items) =
        .item position item kind :: itemParts kind (position + 1) items := rfl
    rw [Path.convertFrom, bind_map_eq_error, ih, hpath, hparts, failsFirst_cons]
    exact Iff.rfl

/-- Properties are converted up to the first that cannot be. -/
theorem coerceFields_eq_error_iff {fields : Fields Value} {properties : List Property} :
    coerceFields path.field fields.get? properties = .error error ↔
      FailsFirst path (fieldParts fields properties) error := by
  induction properties with
  | nil => exact iff_of_false (fun hnil => by cases hnil) not_failsFirst_nil
  | cons property properties ih =>
    rw [coerceFields_cons]
    have hparts : fieldParts fields (property :: properties) =
        .field property (fields.get? property.columnName) :: fieldParts fields properties := rfl
    rw [hparts, failsFirst_cons]
    simp only [bind_map_eq_error, ih]

theorem require_eq_error_iff {α : Type} {found : Option α} (hpresent : v.isNull = false) :
    require path kind v found = .error error ↔
      found = none ∧ error = .mismatch path kind.typeName (v.kindName ++ " " ++ v.text) := by
  cases found with
  | none => simp [require, DecodeError.unexpected, hpresent, eq_comm]
  | some a => simp [require]

theorem bind_pure_eq_error {α β : Type} {first : Except DecodeError α} {build : α → β} :
    (do return build (← first)) = .error error ↔ first = .error error := by
  cases first <;> simp [bind, Except.bind, pure, Except.pure]

/-- What a value holds is converted if it holds something. -/
theorem require_bind_eq_error_iff {α : Type} {found : Option α} {parts : α → List Part}
    {next : α → Except DecodeError Json} (hpresent : v.isNull = false)
    (hdescribed : found = none → described v kind = v.kindName ++ " " ++ v.text)
    (hnext : ∀ a, found = some a → (next a = .error error ↔ FailsFirst path (parts a) error)) :
    (require path kind v found >>= next) = .error error ↔
      (found.map parts = none ∧ error = .mismatch path kind.typeName (described v kind)) ∨
        ∃ all, found.map parts = some all ∧ FailsFirst path all error := by
  rw [Except.bind_eq_error, require_eq_error_iff hpresent]
  cases hfound : found with
  | none => simp [require, hdescribed hfound]
  | some a => simp [require, hnext a hfound]

/-- A value cannot be converted if it is not of its kind in itself, or else if one of its parts
    cannot be. -/
theorem coerce_eq_error_iff_parts (hpresent : v.isNull = false) :
    coerce path v kind = .error error ↔
      (parts? v kind = none ∧ error = .mismatch path kind.typeName (described v kind)) ∨
        ∃ parts, parts? v kind = some parts ∧ FailsFirst path parts error := by
  cases kind with
  | list inner =>
    refine require_bind_eq_error_iff hpresent (fun _ => rfl) fun items _ => ?_
    rw [bind_pure_eq_error]
    exact convertItems_eq_error_iff inner
  | struct properties =>
    refine require_bind_eq_error_iff hpresent (fun _ => rfl) fun fields _ => ?_
    rw [bind_pure_eq_error]
    exact coerceFields_eq_error_iff
  | vector dimension =>
    rw [coerce]
    cases hlist : v.asList? with
    | none =>
      rw [Except.bind_eq_error, require_eq_error_iff hpresent]
      simp [require, parts?, described, hlist]
    | some items =>
      rw [require, Except.ok_bind, parts?, hlist]
      by_cases hlength : items.length = dimension
      · have hitems : path.convertItems (coercePresent coerceElement) items = .error error ↔
            FailsFirst path (itemParts .float 0 items) error := convertItems_eq_error_iff .float
        rw [if_neg (not_not_intro hlength), bind_pure_eq_error, Option.filter_some,
          if_pos (by simpa using hlength)]
        simpa using hitems
      · rw [if_pos hlength, Option.filter_some, if_neg (by simpa using hlength)]
        simp [described, hlist, eq_comm]
  | _ =>
    simp only [coerce, require_eq_error_iff hpresent]
    simp [parts?, described, not_failsFirst_nil]

theorem eq_null_of_isNull (hnull : v.isNull = true) : v = .null := by
  cases v with
  | null => rfl
  | _ => cases hnull

/-- A part that cannot be converted is missing, or absent, or has a value that cannot be. -/
theorem Part.convert_eq_error {part : Part} (hconvert : part.convert path = .error error) :
    (∃ property, part = .field property none ∧ property.isOptional = false ∧
        error = .missingColumn property.columnName) ∨
      (part.found? = some .null ∧ part.isOptional = false ∧ error = .nullViolation path) ∨
      ∃ w, part.found? = some w ∧ w.isNull = false ∧ coerce path w part.kind = .error error := by
  rcases part with ⟨position, w, kind⟩ | ⟨property, _ | w⟩
  · simp only [convert, coercePresent] at hconvert
    split at hconvert
    · rename_i hnull
      cases hconvert
      exact .inr (.inl ⟨congrArg some (eq_null_of_isNull hnull), rfl, rfl⟩)
    · rename_i hpresent
      exact .inr (.inr ⟨w, rfl, by simpa using hpresent, hconvert⟩)
  · simp only [convert] at hconvert
    split at hconvert
    · cases hconvert
    · rename_i hrequired
      cases hconvert
      exact .inl ⟨property, rfl, by simpa using hrequired, rfl⟩
  · simp only [convert] at hconvert
    split at hconvert
    · rename_i hnull
      split at hconvert
      · cases hconvert
      · rename_i hrequired
        cases hconvert
        have hrequired : property.isOptional = false := by simpa using hrequired
        exact .inr (.inl ⟨congrArg some (eq_null_of_isNull hnull), hrequired, rfl⟩)
    · rename_i hpresent
      exact .inr (.inr ⟨w, rfl, by simpa using hpresent, hconvert⟩)

theorem along_cons (path : Path) (part : Part) (steps : List Part) :
    along path (part :: steps) = along (path ++ part.text) steps := by
  simp [along, String.append_assoc]

/-- What is wrong with a part is wrong with the value. -/
theorem Fault.of_part {part : Part} {w : Value} (hreaches : Reaches v kind part)
    (hfound : part.found? = some w) (hpresent : w.isNull = false)
    (hfault : Fault (path ++ part.text) w part.kind error) : Fault path v kind error := by
  cases hfault with
  | misfit hleads hpresent' hmisfit =>
    rw [← along_cons]
    exact .misfit (.step hreaches hfound hpresent hleads) hpresent' hmisfit
  | absent hleads hreaches' hfound' hrequired =>
    rw [← along_cons]
    exact .absent (.step hreaches hfound hpresent hleads) hreaches' hfound' hrequired
  | missing hleads hreaches' hrequired =>
    exact .missing (.step hreaches hfound hpresent hleads) hreaches' hrequired

theorem kind_of_mem_itemParts {position : Nat} {items : List Value} {part : Part}
    (hmem : part ∈ itemParts kind position items) : part.kind = kind := by
  obtain ⟨⟨item, position⟩, _, rfl⟩ := List.mem_map.mp hmem
  rfl

/-- The kind of a part is smaller than the kind of the whole. -/
theorem sizeOf_kind_lt {parts : List Part} {part : Part} (hparts : parts? v kind = some parts)
    (hmem : part ∈ parts) : sizeOf part.kind < sizeOf kind := by
  cases kind with
  | list inner =>
    obtain ⟨items, _, rfl⟩ := Option.map_eq_some_iff.mp hparts
    rw [kind_of_mem_itemParts hmem]
    simp
  | vector dimension =>
    obtain ⟨items, hitems, rfl⟩ := Option.map_eq_some_iff.mp hparts
    rw [kind_of_mem_itemParts hmem]
    obtain ⟨_, hlength⟩ := Option.filter_eq_some_iff.mp hitems
    obtain rfl : items.length = dimension := by simpa using hlength
    have hne : items ≠ [] := by
      rintro rfl
      cases hmem
    have hpositive := List.length_pos_iff.mpr hne
    simp only [Kind.float.sizeOf_spec, Kind.vector.sizeOf_spec, sizeOf_nat]
    omega
  | struct properties =>
    obtain ⟨fields, _, rfl⟩ := Option.map_eq_some_iff.mp hparts
    obtain ⟨property, hproperty, rfl⟩ := List.mem_map.mp hmem
    have hlt := List.sizeOf_lt_of_mem hproperty
    obtain ⟨name, column, kind, _, _, _⟩ := property
    simp [Part.kind] at hlt ⊢
    omega
  | _ =>
    obtain ⟨_, _, rfl⟩ := Option.map_eq_some_iff.mp hparts
    cases hmem

/-- A value that cannot be converted has a first place where it does not fit. -/
theorem fault_of_coerce (path : Path) (v : Value) (kind : Kind) (hpresent : v.isNull = false)
    (hcoerce : coerce path v kind = .error error) : Fault path v kind error := by
  rcases (coerce_eq_error_iff_parts hpresent).mp hcoerce with ⟨hmisfit, rfl⟩ |
    ⟨parts, hparts, before, part, after, rfl, hbefore, hpart⟩
  · simpa [along] using Fault.misfit (.here v kind) hpresent hmisfit
  · have hreaches : Reaches v kind part := ⟨before, after, hparts, hbefore⟩
    rcases part.convert_eq_error hpart with ⟨property, rfl, hrequired, rfl⟩ |
      ⟨hfound, hrequired, rfl⟩ | ⟨w, hfound, hvalue, hinner⟩
    · exact .missing (.here v kind) hreaches hrequired
    · simpa [along] using Fault.absent (.here v kind) hreaches hfound hrequired
    · have hfault := fault_of_coerce (path ++ part.text) w part.kind hvalue hinner
      exact hfault.of_part hreaches hfound hvalue
termination_by sizeOf kind
decreasing_by exact sizeOf_kind_lt hparts (List.mem_append_right _ List.mem_cons_self)

theorem Part.convert_of_present {part : Part} {w : Value} (hfound : part.found? = some w)
    (hpresent : w.isNull = false) : part.convert path = coerce path w part.kind := by
  rcases part with ⟨position, w', kind⟩ | ⟨property, found⟩
  · cases hfound
    simp [convert, coercePresent, hpresent, Part.kind]
  · cases hfound
    simp [convert, hpresent, Part.kind]

theorem Part.convert_of_absent {part : Part} (hfound : part.found? = some .null)
    (hrequired : part.isOptional = false) : part.convert path = .error (.nullViolation path) := by
  rcases part with ⟨position, w, kind⟩ | ⟨property, found⟩
  · cases hfound
    rfl
  · cases hfound
    have hproperty : property.isOptional = false := hrequired
    simp [convert, hproperty, Value.isNull]

/-- A part that is come to and cannot be converted makes the whole fail. -/
theorem Reaches.coerce_eq_error {part : Part} (hreaches : Reaches v kind part)
    (hpresent : v.isNull = false) (herror : part.convert (path ++ part.text) = .error error) :
    coerce path v kind = .error error := by
  obtain ⟨before, after, hparts, hbefore⟩ := hreaches
  exact (coerce_eq_error_iff_parts hpresent).mpr
    (.inr ⟨_, hparts, before, part, after, rfl, hbefore, herror⟩)

/-- What cannot be converted behind some steps makes the whole fail. -/
theorem Leads.coerce_eq_error {steps : List Part} {u : Value} {k : Kind}
    (hleads : Leads v kind steps u k) (hpresent : v.isNull = false)
    (herror : u.isNull = false → coerce (along path steps) u k = .error error) :
    coerce path v kind = .error error := by
  induction hleads generalizing path with
  | here => simpa [along] using herror hpresent
  | step hreaches hfound hpresent' _ ih =>
    apply hreaches.coerce_eq_error hpresent
    rw [Part.convert_of_present hfound hpresent']
    exact ih hpresent' fun hlast => along_cons path _ _ ▸ herror hlast

end Errors

/-- Decoding fails at the first place that does not fit, and names it: the path in the error is the
    way to this place. Everything before it on the way, at every level, can be converted. -/
theorem coerce_eq_error_iff (path : Path) {v : Value} (kind : Kind) (hpresent : v.isNull = false)
    (error : DecodeError) : coerce path v kind = .error error ↔ Fault path v kind error := by
  refine ⟨fault_of_coerce path v kind hpresent, fun hfault => ?_⟩
  cases hfault with
  | misfit hleads _ hmisfit =>
    refine hleads.coerce_eq_error hpresent fun hlast => ?_
    exact (coerce_eq_error_iff_parts hlast).mpr (.inl ⟨hmisfit, rfl⟩)
  | @absent steps u k part hleads hreaches hfound hrequired =>
    refine hleads.coerce_eq_error hpresent fun hlast => hreaches.coerce_eq_error hlast ?_
    rw [Part.convert_of_absent hfound hrequired]
    simp [along, String.append_assoc]
  | missing hleads hreaches hrequired =>
    refine hleads.coerce_eq_error hpresent fun hlast => hreaches.coerce_eq_error hlast ?_
    simp [Part.convert, hrequired]

/-- Trips with their legs. A column of another name holds where a leg leads to, and the place has
    two coordinates. -/
def trip : Kind :=
  .struct
    [{ name := "legs", column := some "route", kind := .list (.struct
        [{ name := "to", column := some "goal", kind := .string },
          { name := "at", kind := .vector 2, isOptional := true }]) }]

/-- A trip of two legs, by what is known of the second one. -/
def tripBy (second : Fields Value) : Value :=
  .map [("route", .list [.map [("goal", .string "Paris")], .map second])]

/-- Of the second leg first its goal is absent, then its place has too many coordinates, and then
    it has no goal at all. -/
theorem trip_faults :
    coerce "trip" (tripBy [("goal", .null)]) trip = .error (.nullViolation "trip.legs[1].to") ∧
      Fault "trip" (tripBy [("goal", .null)]) trip (.nullViolation "trip.legs[1].to") ∧
      Fault "trip" (tripBy [("at", .list [.null, .null, .null]), ("goal", .string "Rome")]) trip
        (.mismatch "trip.legs[1].at" "FLOAT[2]" "LIST of 3 elements") ∧
      Fault "trip" (tripBy []) trip (.missingColumn "goal") := by
  have habsent : coerce "trip" (tripBy [("goal", .null)]) trip =
      .error (.nullViolation "trip.legs[1].to") := by
    rfl
  have hmismatch : coerce "trip"
      (tripBy [("at", .list [.null, .null, .null]), ("goal", .string "Rome")]) trip =
        .error (.mismatch "trip.legs[1].at" "FLOAT[2]" "LIST of 3 elements") := by
    rfl
  have hmissing : coerce "trip" (tripBy []) trip = .error (.missingColumn "goal") := by
    rfl
  exact ⟨habsent, (coerce_eq_error_iff _ _ rfl _).mp habsent,
    (coerce_eq_error_iff _ _ rfl _).mp hmismatch, (coerce_eq_error_iff _ _ rfl _).mp hmissing⟩

end Record

end GraphQuery
