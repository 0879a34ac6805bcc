import GraphQuery.Proofs.Binary.Exact
import GraphQuery.Proofs.Scope
import GraphQuery.Record.Coerce
import GraphQuery.Record.Encode
import Mathlib.Data.List.Forall2

namespace GraphQuery

namespace Json

variable {json : Json}

theorem eq_null_of_isNull (hnull : json.isNull = true) : json = .null := by
  cases json with
  | null => rfl
  | _ => cases hnull

theorem asString?_eq_some {s : String} : json.asString? = some s ↔ json = .string s := by
  cases json <;> simp [asString?]

theorem asBool?_eq_some {b : Bool} : json.asBool? = some b ↔ json = .bool b := by
  cases json <;> simp [asBool?]

theorem asInt?_eq_some {m : Int} :
    json.asInt? = some m ↔ ∃ n : JsonInteger, n.val = m ∧ json = .integer n := by
  cases json <;> simp [asInt?, eq_comm]

theorem asArray?_eq_some {items : List Json} :
    json.asArray? = some items ↔ json = .array items := by
  cases json <;> simp [asArray?]

theorem asObject?_eq_some {fields : Fields Json} :
    json.asObject? = some fields ↔ json = .object fields := by
  cases json <;> simp [asObject?]

theorem isNull_of_asDouble? {x : Double} (hnumber : json.asDouble? = some x) :
    json.isNull = false := by
  cases json with
  | null => cases hnumber
  | _ => rfl

/-- A number of a document is finite. -/
theorem isFinite_of_asDouble? {x : Double} (hnumber : json.asDouble? = some x) :
    x.isFinite = true := by
  cases json with
  | integer n =>
    cases hnumber
    obtain ⟨hleast, hgreatest⟩ := n.inRange
    exact Binary.isFinite_ofInt (by omega)
  | real y =>
    cases hnumber
    exact y.isFinite
  | _ => cases hnumber

end Json

namespace Record

/-- What holds of every item and what it is converted to holds of a list and what that is converted
    to. -/
theorem forall₂_of_convertFrom {α β ε : Type} {path : Path} {convert : Path → α → Except ε β}
    {relates : α → β → Prop} {position : Nat} {items : List α} {converted : List β}
    (hitems : ∀ item ∈ items, ∀ path v, convert path item = .ok v → relates item v)
    (hconvert : path.convertFrom convert position items = .ok converted) :
    List.Forall₂ relates items converted := by
  induction items generalizing position converted with
  | nil =>
    cases hconvert
    exact .nil
  | cons item items ih =>
    simp only [Path.convertFrom, Except.bind_eq_ok] at hconvert
    obtain ⟨v, hitem, vs, hrest, heq⟩ := hconvert
    cases heq
    exact .cons (hitems item List.mem_cons_self _ _ hitem)
      (ih (fun other hother => hitems other (List.mem_cons_of_mem _ hother)) hrest)

/-- What holds of every item that is converted holds of every item of the result. -/
theorem forall_of_convertFrom {α β ε : Type} {path : Path} {convert : Path → α → Except ε β}
    {holds : β → Prop} {position : Nat} {items : List α} {converted : List β}
    (hitems : ∀ item ∈ items, ∀ path out, convert path item = .ok out → holds out)
    (hconvert : path.convertFrom convert position items = .ok converted) :
    ∀ out ∈ converted, holds out := by
  have hforall : List.Forall₂ (fun _ out => holds out ∧ True) items converted :=
    forall₂_of_convertFrom
      (fun item hitem path out hout => ⟨hitems item hitem path out hout, trivial⟩) hconvert
  exact ((List.forall₂_and_left _ _).mp hforall.flip).1

theorem length_of_convertFrom {α β ε : Type} {path : Path} {convert : Path → α → Except ε β}
    {position : Nat} {items : List α} {converted : List β}
    (hconvert : path.convertFrom convert position items = .ok converted) :
    converted.length = items.length := by
  have hforall : List.Forall₂ (fun _ _ => True) items converted :=
    forall₂_of_convertFrom (fun _ _ _ _ _ => trivial) hconvert
  exact hforall.length_eq.symm

theorem expect_eq_ok {α : Type} {path : Path} {kind : Kind} {json : Json} {found : Option α}
    {a : α} : expect path kind json found = .ok a ↔ found = some a := by
  cases found <;> simp [expect, failWith]

theorem expectText_eq_ok {path : Path} {word text : String} {found : Option Value} {v : Value} :
    expectText path word text found = .ok v ↔ found = some v := by
  cases found <;> simp [expectText, failWith]

theorem encodeInt_eq_ok {path : Path} {kind : IntKind} {n : Int} {v : Value}
    (hencode : encodeInt path kind n = .ok v) : ∃ hholds, v = .int ⟨kind, n, hholds⟩ := by
  unfold encodeInt SizedInt.ofInt? at hencode
  by_cases hholds : kind.Holds n
  · rw [dif_pos hholds] at hencode
    cases hencode
    exact ⟨hholds, rfl⟩
  · rw [dif_neg hholds] at hencode
    cases hencode

/-- A finite number that is encoded in single precision is in its range. -/
theorem encodeFloat_eq_ok {path : Path} {x : Double} {v : Value} (hfinite : x.isFinite = true)
    (hencode : encodeFloat path x = .ok v) :
    x.withinRange .single = true ∧ v = .float x.narrow := by
  unfold encodeFloat at hencode
  split at hencode
  · cases hencode
  · rename_i hrange
    cases hencode
    exact ⟨by simpa [hfinite] using hrange, rfl⟩

/-- An absent document is encoded as the absent value, whatever the kind. -/
theorem encode_of_isNull {json : Json} (hnull : json.isNull = true) (path : Path) (kind : Kind) :
    encode path json kind = .ok .null := by
  cases kind <;> simp only [encode, hnull, if_true]

/-- The items of a vector are encoded as numbers in single precision are elsewhere. -/
theorem encodeElement_eq_encode (path : Path) (json : Json) :
    encodeElement path json = encode path json .float := by
  cases hnull : json.isNull <;> simp [encode, encodeElement, hnull]

/-- What a document is encoded as, with one rule for the absent document and one for every kind. The
    parts of a list and of a nested record are encoded in turn. -/
inductive Encodes (path : Path) : Json → Kind → Value → Prop
  | null (kind : Kind) : Encodes path .null kind .null
  | string (s : String) : Encodes path (.string s) .string (.string s)
  | bool (b : Bool) : Encodes path (.bool b) .bool (.bool b)
  | int {width : IntKind} {n : JsonInteger} (hholds : width.Holds n.val) :
      Encodes path (.integer n) (.int width) (.int ⟨width, n.val, hholds⟩)
  | float {json : Json} {x : Double} (hnumber : json.asDouble? = some x)
      (hrange : x.withinRange .single = true) : Encodes path json .float (.float x.narrow)
  | double {json : Json} {x : Double} (hnumber : json.asDouble? = some x) :
      Encodes path json .double (.double x)
  | uuid {s : String} {uuid : Uuid} (hread : Uuid.read? s = some uuid) :
      Encodes path (.string s) .uuid (.uuid uuid)
  | timestamp {s : String} {time : Timestamp} (hread : Timestamp.read? s = some time) :
      Encodes path (.string s) .timestamp (.timestamp time)
  | date {s : String} {date : Date} (hread : Date.read? s = some date) :
      Encodes path (.string s) .date (.date date)
  | list {inner : Kind} {items : List Json} {vs : List Value}
      (hitems : path.convertItems (fun path item => encode path item inner) items = .ok vs) :
      Encodes path (.array items) (.list inner) (.list vs)
  | vector {dimension : Nat} {items : List Json} {vs : List Value}
      (hitems : path.convertItems (fun path item => encode path item .float) items = .ok vs) :
      Encodes path (.array items) (.vector dimension) (.list vs)
  | struct {properties : List Property} {fields : Fields Json} {columns : List (String × Value)}
      (hcolumns : encodeFields path fields properties = .ok columns) :
      Encodes path (.object fields) (.struct properties) (.map (Fields.ofList columns))

theorem encodes_of_encode {path : Path} {json : Json} {kind : Kind} {v : Value}
    (hencode : encode path json kind = .ok v) : Encodes path json kind v := by
  cases hnull : json.isNull with
  | true =>
    rw [encode_of_isNull hnull] at hencode
    cases hencode
    rw [Json.eq_null_of_isNull hnull]
    exact .null kind
  | false =>
    cases kind with
    | string =>
      simp only [encode, hnull, Bool.false_eq_true, if_false, Except.bind_eq_ok, expect_eq_ok,
        Json.asString?_eq_some] at hencode
      obtain ⟨s, rfl, heq⟩ := hencode
      cases heq
      exact .string s
    | bool =>
      simp only [encode, hnull, Bool.false_eq_true, if_false, Except.bind_eq_ok, expect_eq_ok,
        Json.asBool?_eq_some] at hencode
      obtain ⟨b, rfl, heq⟩ := hencode
      cases heq
      exact .bool b
    | int width =>
      simp only [encode, hnull, Bool.false_eq_true, if_false, Except.bind_eq_ok, expect_eq_ok,
        Json.asInt?_eq_some] at hencode
      obtain ⟨_, ⟨n, rfl, rfl⟩, hint⟩ := hencode
      obtain ⟨hholds, rfl⟩ := encodeInt_eq_ok hint
      exact .int hholds
    | float =>
      simp only [encode, encodeElement, hnull, Bool.false_eq_true, if_false, Except.bind_eq_ok,
        expect_eq_ok] at hencode
      obtain ⟨x, hnumber, hfloat⟩ := hencode
      obtain ⟨hrange, rfl⟩ := encodeFloat_eq_ok (Json.isFinite_of_asDouble? hnumber) hfloat
      exact .float hnumber hrange
    | double =>
      simp only [encode, hnull, Bool.false_eq_true, if_false, Except.bind_eq_ok, expect_eq_ok]
        at hencode
      obtain ⟨x, hnumber, heq⟩ := hencode
      cases heq
      exact .double hnumber
    | uuid =>
      simp only [encode, hnull, Bool.false_eq_true, if_false, Except.bind_eq_ok, expect_eq_ok,
        expectText_eq_ok, Option.map_eq_some_iff, Json.asString?_eq_some] at hencode
      obtain ⟨s, rfl, uuid, hread, rfl⟩ := hencode
      exact .uuid hread
    | timestamp =>
      simp only [encode, hnull, Bool.false_eq_true, if_false, Except.bind_eq_ok, expect_eq_ok,
        expectText_eq_ok, Option.map_eq_some_iff, Json.asString?_eq_some] at hencode
      obtain ⟨s, rfl, time, hread, rfl⟩ := hencode
      exact .timestamp hread
    | date =>
      simp only [encode, hnull, Bool.false_eq_true, if_false, Except.bind_eq_ok, expect_eq_ok,
        expectText_eq_ok, Option.map_eq_some_iff, Json.asString?_eq_some] at hencode
      obtain ⟨s, rfl, date, hread, rfl⟩ := hencode
      exact .date hread
    | list inner =>
      simp only [encode, hnull, Bool.false_eq_true, if_false, Except.bind_eq_ok, expect_eq_ok,
        Json.asArray?_eq_some] at hencode
      obtain ⟨items, rfl, vs, hitems, heq⟩ := hencode
      cases heq
      exact .list hitems
    | vector dimension =>
      simp only [encode, hnull, Bool.false_eq_true, if_false, Except.bind_eq_ok, expect_eq_ok,
        Json.asArray?_eq_some] at hencode
      obtain ⟨items, rfl, vs, hitems, heq⟩ := hencode
      cases heq
      rw [funext₂ encodeElement_eq_encode] at hitems
      exact .vector hitems
    | struct properties =>
      simp only [encode, hnull, Bool.false_eq_true, if_false, Except.bind_eq_ok, expect_eq_ok,
        Json.asObject?_eq_some] at hencode
      obtain ⟨fields, rfl, columns, hcolumns, heq⟩ := hencode
      cases heq
      exact .struct hcolumns

theorem require_eq_ok {α : Type} {path : Path} {kind : Kind} {v : Value} {found : Option α}
    {a : α} : require path kind v found = .ok a ↔ found = some a := by
  cases found <;> simp [require]

theorem coercePresent_eq_ok {coerceItem : Path → Value → Except DecodeError Json} {path : Path}
    {v : Value} {json : Json} (hcoerce : coercePresent coerceItem path v = .ok json) :
    coerceItem path v = .ok json := by
  unfold coercePresent at hcoerce
  split at hcoerce
  · cases hcoerce
  · exact hcoerce

/-- What a value is decoded to, with one rule for all kinds that have no parts. The parts of a list
    and of a nested record are decoded in turn. -/
inductive Coerces (path : Path) (v : Value) : Kind → Json → Prop
  | scalar {kind : Kind} {json : Json} (hscalar : v.coerceScalar? kind = some json) :
      Coerces path v kind json
  | list {inner : Kind} {items : List Value} {outs : List Json} (hlist : v.asList? = some items)
      (hitems : path.convertItems (coercePresent fun path item => coerce path item inner) items =
        .ok outs) :
      Coerces path v (.list inner) (.array outs)
  | vector {dimension : Nat} {items : List Value} {outs : List Json}
      (hlist : v.asList? = some items) (hdimension : items.length = dimension)
      (hitems : path.convertItems (coercePresent coerceElement) items = .ok outs) :
      Coerces path v (.vector dimension) (.array outs)
  | struct {properties : List Property} {fields : Fields Value} {entries : List (String × Json)}
      (hfields : v.asFields? = some fields)
      (hentries : coerceFields path.field fields.get? properties = .ok entries) :
      Coerces path v (.struct properties) (.object (Fields.ofList entries))

theorem coerce_eq_ok_iff {path : Path} {v : Value} {kind : Kind} {json : Json} :
    coerce path v kind = .ok json ↔ Coerces path v kind json := by
  constructor
  · intro hcoerce
    cases kind with
    | list inner =>
      simp only [coerce, Except.bind_eq_ok, require_eq_ok] at hcoerce
      obtain ⟨items, hlist, outs, hitems, heq⟩ := hcoerce
      cases heq
      exact .list hlist hitems
    | vector dimension =>
      simp only [coerce, Except.bind_eq_ok, require_eq_ok] at hcoerce
      obtain ⟨items, hlist, hcoerce⟩ := hcoerce
      split at hcoerce
      · cases hcoerce
      · rename_i hdimension
        obtain ⟨outs, hitems, heq⟩ := Except.bind_eq_ok.mp hcoerce
        cases heq
        exact .vector hlist (not_not.mp hdimension) hitems
    | struct properties =>
      simp only [coerce, Except.bind_eq_ok, require_eq_ok] at hcoerce
      obtain ⟨fields, hfields, entries, hentries, heq⟩ := hcoerce
      cases heq
      exact .struct hfields hentries
    | _ => exact .scalar (require_eq_ok.mp hcoerce)
  · intro hcoerces
    cases hcoerces with
    | scalar hscalar =>
      cases kind with
      | list | vector | struct => cases hscalar
      | _ => exact require_eq_ok.mpr hscalar
    | list hlist hitems | struct hlist hitems =>
      simp only [coerce, Except.bind_eq_ok, require_eq_ok]
      exact ⟨_, hlist, _, hitems, rfl⟩
    | vector hlist hdimension hitems =>
      simp only [coerce, Except.bind_eq_ok, require_eq_ok]
      refine ⟨_, hlist, ?_⟩
      rw [if_neg (not_not.mpr hdimension)]
      exact Except.bind_eq_ok.mpr ⟨_, hitems, rfl⟩

end Record

end GraphQuery
