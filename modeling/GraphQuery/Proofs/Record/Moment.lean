import GraphQuery.Proofs.Record.Conversion
import GraphQuery.Proofs.Time.Timestamp

namespace GraphQuery

namespace Record

variable {path : Path} {text : String} {v : Value}

theorem encode_timestamp (path : Path) (text : String) :
    encode path (.string text) .timestamp =
      expectText path "timestamp" text ((Timestamp.read? text).map .timestamp) := by
  rw [encode]
  rfl

/-- A text is encoded as the moment that is read from it. -/
theorem encode_timestamp_eq_ok_iff :
    encode path (.string text) .timestamp = .ok v ↔
      ∃ t, Timestamp.read? text = some t ∧ .timestamp t = v := by
  rw [encode_timestamp, expectText_eq_ok, Option.map_eq_some_iff]

theorem encode_timestamp_of_read?_eq_none (hread : Timestamp.read? text = none) (path : Path) :
    encode path (.string text) .timestamp =
      failWith component (.invalidText path "timestamp" text) := by
  rw [encode_timestamp, hread]
  rfl

/-- The moment that a text is encoded as is decoded to its text in universal time, which is encoded
    as the same moment if the year has four digits. An offset leads at most into the year before the
    first such year, or into the one after the last: the text of a moment there has a sign, and is
    not encoded. -/
theorem encode_coerced_timestamp (field again : Path)
    (hencode : encode path (.string text) .timestamp = .ok v) :
    ∃ t : Timestamp, v = .timestamp t ∧ coerce field v .timestamp = .ok (.string t.text) ∧
      ((0 ≤ t.date.year ∧ t.date.year ≤ 9999) ∧
          encode again (.string t.text) .timestamp = .ok v ∨
        (t.date.year = -1 ∨ t.date.year = 10000) ∧
          encode again (.string t.text) .timestamp =
            failWith component (.invalidText again "timestamp" t.text)) := by
  obtain ⟨t, hread, rfl⟩ := encode_timestamp_eq_ok_iff.mp hencode
  obtain ⟨hregular, hleast, hgreatest⟩ := Timestamp.isRegular_of_read? hread
  refine ⟨t, rfl, coerce_eq_ok_iff.mpr (.scalar rfl), ?_⟩
  by_cases hyear : 0 ≤ t.date.year ∧ t.date.year ≤ 9999
  · have hagain := Timestamp.read?_text hyear hregular
    exact .inl ⟨hyear, encode_timestamp_eq_ok_iff.mpr ⟨t, hagain, rfl⟩⟩
  · have hsigned : t.date.year < 0 ∨ 9999 < t.date.year := by omega
    exact .inr ⟨by omega,
      encode_timestamp_of_read?_eq_none (Timestamp.read?_text_eq_none hsigned) again⟩

/-- A leap second at a place whose clock is five hours behind, in the last second of its minute. -/
theorem leapSecond_encode_coerced :
    let v := Value.timestamp ⟨⟨2016, 12, 31, by decide, by decide⟩, 86399, 1250000000, by decide,
      by decide⟩
    encode "Tick.at" (.string "2016-12-31t18:59:60.25-05:00") .timestamp = .ok v ∧
      coerce "at" v .timestamp = .ok (.string "2016-12-31T23:59:60.250Z") ∧
      encode "Tick.at" (.string "2016-12-31T23:59:60.250Z") .timestamp = .ok v := by
  intro v
  have hencode : encode "Tick.at" (.string "2016-12-31t18:59:60.25-05:00") .timestamp = .ok v :=
    encode_timestamp_eq_ok_iff.mpr ⟨_, by decide +kernel, rfl⟩
  obtain ⟨t, heq, hcoerce, ⟨_, hagain⟩ | ⟨hyear, _⟩⟩ :=
    encode_coerced_timestamp "at" "Tick.at" hencode
  · obtain rfl := Value.timestamp.inj heq
    exact ⟨hencode, hcoerce, hagain⟩
  · obtain rfl := Value.timestamp.inj heq
    rcases hyear with hyear | hyear <;> cases hyear

/-- A clock that is a minute ahead shows the first moment of the year zero: the moment lies in the
    year before, and its text is refused. -/
theorem yearZero_not_encoded_again :
    let v := Value.timestamp ⟨⟨-1, 12, 31, by decide, by decide⟩, 86340, 0, by decide, by decide⟩
    encode "Event.at" (.string "0000-01-01T00:00:00+00:01") .timestamp = .ok v ∧
      coerce "at" v .timestamp = .ok (.string "-0001-12-31T23:59:00Z") ∧
      encode "Event.at" (.string "-0001-12-31T23:59:00Z") .timestamp =
        failWith component (.invalidText "Event.at" "timestamp" "-0001-12-31T23:59:00Z") :=
  ⟨encode_timestamp_eq_ok_iff.mpr ⟨_, by decide +kernel, rfl⟩, coerce_eq_ok_iff.mpr (.scalar rfl),
    encode_timestamp_of_read?_eq_none (by decide +kernel) _⟩

end Record

end GraphQuery
