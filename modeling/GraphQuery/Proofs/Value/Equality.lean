import GraphQuery.Value

namespace GraphQuery

namespace Binary

variable {F : BinaryFormat}

theorem equals_comm (x y : Binary F) : x.equals y = y.equals x := by
  cases x <;> cases y <;> simp only [equals]
  rename_i negative rank negative' rank'
  by_cases hranks : rank = rank'
  · simp [hranks, eq_comm]
  · simp [hranks, Ne.symm hranks]

theorem equals_trans {x y z : Binary F} (hfirst : x.equals y = true)
    (hsecond : y.equals z = true) : x.equals z = true := by
  cases x <;> cases y <;> cases z <;> simp_all [equals]
  grind

end Binary

namespace Value

mutual

/-- Equality of values does not depend on their order. -/
theorem equals_comm : ∀ a b : Value, a.equals b = b.equals a
  | .null, b => by cases b <;> rfl
  | .bool _, b => by cases b <;> simp [equals, eq_comm]
  | .int _, b => by cases b <;> simp [equals, eq_comm]
  | .float x, b => by cases b <;> simp [equals, Binary.equals_comm x]
  | .double x, b => by cases b <;> simp [equals, Binary.equals_comm x]
  | .string _, b => by cases b <;> simp [equals, eq_comm]
  | .uuid _, b => by cases b <;> simp [equals, eq_comm]
  | .timestamp _, b => by cases b <;> simp [equals, eq_comm]
  | .date _, b => by cases b <;> simp [equals, eq_comm]
  | .internalId _, b => by cases b <;> simp [equals, eq_comm]
  | .list items, b => by cases b <;> simp [equals, equalItems_comm items]
  | .map entries, b => by cases b <;> simp [equals, equalEntries_comm entries]
  | .node _ _ properties, b => by
    cases b <;> simp [equals, equalEntries_comm properties, eq_comm]
  | .rel _ _ _ _ properties, b => by
    cases b <;> simp [equals, equalEntries_comm properties, eq_comm]

theorem equalItems_comm : ∀ as bs : List Value, equalItems as bs = equalItems bs as
  | [], bs => by cases bs <;> rfl
  | a :: as, bs => by
    cases bs with
    | nil => rfl
    | cons b bs => rw [equalItems, equalItems, equals_comm a b, equalItems_comm as bs]

theorem equalEntries_comm : ∀ as bs : List (String × Value), equalEntries as bs = equalEntries bs as
  | [], bs => by cases bs <;> rfl
  | (name, a) :: as, bs => by
    cases bs with
    | nil => rfl
    | cons entry bs =>
      obtain ⟨name', b⟩ := entry
      simp [equalEntries, equals_comm a b, equalEntries_comm as bs, eq_comm]

end

/-- Whether a value is neither a floating-point number nor made of other values. -/
def isDiscrete : Value → Bool
  | .float _ | .double _ | .list _ | .map _ | .node .. | .rel .. => false
  | _ => true

theorem eq_of_equals {a b : Value} (hdiscrete : a.isDiscrete = true) (hequals : a.equals b = true) :
    a = b := by
  cases a with
  | float | double | list | map | node | rel => cases hdiscrete
  | _ => cases b <;> simp_all [equals]

mutual

/-- Values that are equal to the same one are equal to each other. -/
theorem equals_trans : ∀ {a b c : Value}, a.equals b = true → b.equals c = true → a.equals c = true
  | .null, b, c, hfirst, hsecond | .bool _, b, c, hfirst, hsecond | .int _, b, c, hfirst, hsecond
  | .string _, b, c, hfirst, hsecond | .uuid _, b, c, hfirst, hsecond
  | .timestamp _, b, c, hfirst, hsecond | .date _, b, c, hfirst, hsecond
  | .internalId _, b, c, hfirst, hsecond => by rwa [eq_of_equals rfl hfirst]
  | .float x, b, c, hfirst, hsecond => by
    cases b with
    | float y =>
      cases c with
      | float z => exact Binary.equals_trans hfirst hsecond
      | _ => cases hsecond
    | _ => cases hfirst
  | .double x, b, c, hfirst, hsecond => by
    cases b with
    | double y =>
      cases c with
      | double z => exact Binary.equals_trans hfirst hsecond
      | _ => cases hsecond
    | _ => cases hfirst
  | .list as, b, c, hfirst, hsecond => by
    cases b with
    | list bs =>
      cases c with
      | list cs => exact equalItems_trans hfirst hsecond
      | _ => cases hsecond
    | _ => cases hfirst
  | .map as, b, c, hfirst, hsecond => by
    cases b with
    | map bs =>
      cases c with
      | map cs => exact equalEntries_trans hfirst hsecond
      | _ => cases hsecond
    | _ => cases hfirst
  | .node _ _ as, b, c, hfirst, hsecond => by
    cases b with
    | node _ _ bs =>
      cases c with
      | node _ _ cs =>
        simp only [equals, Bool.and_eq_true, decide_eq_true_eq] at hfirst hsecond ⊢
        obtain ⟨⟨rfl, rfl⟩, hfirst⟩ := hfirst
        exact ⟨hsecond.1, equalEntries_trans hfirst hsecond.2⟩
      | _ => cases hsecond
    | _ => cases hfirst
  | .rel _ _ _ _ as, b, c, hfirst, hsecond => by
    cases b with
    | rel _ _ _ _ bs =>
      cases c with
      | rel _ _ _ _ cs =>
        simp only [equals, Bool.and_eq_true, decide_eq_true_eq] at hfirst hsecond ⊢
        obtain ⟨⟨⟨⟨rfl, rfl⟩, rfl⟩, rfl⟩, hfirst⟩ := hfirst
        exact ⟨hsecond.1, equalEntries_trans hfirst hsecond.2⟩
      | _ => cases hsecond
    | _ => cases hfirst

theorem equalItems_trans : ∀ {as bs cs : List Value}, equalItems as bs = true →
    equalItems bs cs = true → equalItems as cs = true
  | [], bs, cs, hfirst, hsecond => by
    cases bs with
    | nil => exact hsecond
    | cons => cases hfirst
  | a :: as, bs, cs, hfirst, hsecond => by
    cases bs with
    | nil => cases hfirst
    | cons b bs =>
      cases cs with
      | nil => cases hsecond
      | cons c cs =>
        simp only [equalItems, Bool.and_eq_true] at hfirst hsecond ⊢
        exact ⟨equals_trans hfirst.1 hsecond.1, equalItems_trans hfirst.2 hsecond.2⟩

theorem equalEntries_trans : ∀ {as bs cs : List (String × Value)}, equalEntries as bs = true →
    equalEntries bs cs = true → equalEntries as cs = true
  | [], bs, cs, hfirst, hsecond => by
    cases bs with
    | nil => exact hsecond
    | cons => cases hfirst
  | (name, a) :: as, bs, cs, hfirst, hsecond => by
    cases bs with
    | nil => cases hfirst
    | cons b bs =>
      cases cs with
      | nil => cases hsecond
      | cons c cs =>
        simp only [equalEntries, Bool.and_eq_true, decide_eq_true_eq] at hfirst hsecond ⊢
        obtain ⟨⟨rfl, hhead⟩, hfirst⟩ := hfirst
        exact ⟨⟨hsecond.1.1, equals_trans hhead hsecond.1.2⟩,
          equalEntries_trans hfirst hsecond.2⟩

end

end Value

end GraphQuery
