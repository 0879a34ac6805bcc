import GraphQuery.Fields.Lemmas
import Mathlib.Data.List.Basic

namespace GraphQuery

namespace Fields

variable {α : Type u}

@[simp]
theorem get?_nil (name : String) : get? ([] : Fields α) name = none :=
  rfl

theorem get?_cons (entry : String × α) (fields : Fields α) (name : String) :
    get? (entry :: fields) name = if name = entry.1 then some entry.2 else get? fields name := by
  obtain ⟨name', value⟩ := entry
  unfold get?
  rw [List.lookup_cons]
  by_cases heq : name = name'
  · simp [heq]
  · rw [beq_false_of_ne heq, if_neg heq]

theorem get?_append (first second : Fields α) (name : String) :
    get? (first ++ second) name = (get? first name).or (get? second name) :=
  List.lookup_append

theorem isSome_get?_iff {fields : Fields α} {name : String} :
    (fields.get? name).isSome ↔ name ∈ fields.names := by
  induction fields with
  | nil => simp [names]
  | cons entry fields ih =>
    rw [get?_cons]
    by_cases heq : name = entry.1
    · simp [names, heq]
    · rw [if_neg heq, ih]
      simp [names, heq]

theorem get?_eq_none_iff {fields : Fields α} {name : String} :
    fields.get? name = none ↔ name ∉ fields.names := by
  rw [← isSome_get?_iff, Option.not_isSome_iff_eq_none]

theorem mem_of_get? {fields : Fields α} {name : String} {value : α}
    (hget : fields.get? name = some value) : (name, value) ∈ fields := by
  induction fields with
  | nil => cases hget
  | cons entry fields ih =>
    rw [get?_cons] at hget
    by_cases heq : name = entry.1
    · rw [if_pos heq] at hget
      cases hget
      exact heq ▸ List.mem_cons_self
    · rw [if_neg heq] at hget
      exact List.mem_cons_of_mem _ (ih hget)

theorem get?_of_mem {fields : Fields α} {name : String} {value : α}
    (hdistinct : fields.names.Nodup) (hmem : (name, value) ∈ fields) :
    fields.get? name = some value := by
  induction fields with
  | nil => cases hmem
  | cons entry fields ih =>
    obtain ⟨hnew, hdistinct⟩ := List.nodup_cons.mp hdistinct
    rw [get?_cons]
    rcases List.mem_cons.mp hmem with rfl | hmem
    · rw [if_pos rfl]
    · have hne : name ≠ entry.1 := by
        rintro rfl
        exact hnew (List.mem_map.mpr ⟨_, hmem, rfl⟩)
      rw [if_neg hne, ih hdistinct hmem]

/-- Where no name is given twice, the order of the entries does not matter. -/
theorem get?_of_perm {first second : Fields α} (hperm : first.Perm second)
    (hdistinct : first.names.Nodup) (name : String) : first.get? name = second.get? name := by
  have hother : second.names.Nodup := (hperm.map Prod.fst).nodup_iff.mp hdistinct
  refine Option.ext fun value => ?_
  exact ⟨fun hget => get?_of_mem hother (hperm.mem_iff.mp (mem_of_get? hget)),
    fun hget => get?_of_mem hdistinct (hperm.mem_iff.mpr (mem_of_get? hget))⟩

/-- After an entry is put into a table its name has the new value, and any other name the one it
    had. The table need not be sorted for that. -/
theorem get?_insert (fields : Fields α) (name other : String) (value : α) :
    (fields.insert name value).get? other =
      if other = name then some value else fields.get? other := by
  induction fields with
  | nil => rw [insert, get?_cons]
  | cons head rest ih =>
    obtain ⟨name', value'⟩ := head
    unfold insert
    by_cases hlt : name < name'
    · rw [if_pos hlt, get?_cons]
    · rw [if_neg hlt]
      by_cases heq : name = name'
      · rw [if_pos heq, get?_cons, get?_cons]
        by_cases hother : other = name
        · simp [hother]
        · simp [hother, show other ≠ name' from heq ▸ hother]
      · rw [if_neg heq, get?_cons, get?_cons, ih]
        by_cases hother : other = name'
        · simp [hother, show name' ≠ name from Ne.symm heq]
        · simp [hother]

theorem get?_foldl_insert_of_not_mem {entries : List (String × α)} {fields : Fields α}
    {name : String} (hnew : name ∉ names entries) :
    (entries.foldl (fun fields entry => fields.insert entry.1 entry.2) fields).get? name =
      fields.get? name := by
  induction entries generalizing fields with
  | nil => rfl
  | cons entry entries ih =>
    have hne : name ≠ entry.1 := fun heq => hnew (by simp [names, heq])
    have hrest : name ∉ names entries := fun hmem => hnew (List.mem_cons_of_mem _ hmem)
    rw [List.foldl_cons, ih hrest, get?_insert, if_neg hne]

theorem get?_foldl_insert {entries : List (String × α)} (fields : Fields α)
    (hdistinct : (names entries).Nodup) (name : String) :
    (entries.foldl (fun fields entry => fields.insert entry.1 entry.2) fields).get? name =
      (get? entries name).or (fields.get? name) := by
  induction entries generalizing fields with
  | nil => simp
  | cons entry entries ih =>
    obtain ⟨hfirst, hrest⟩ := List.nodup_cons.mp hdistinct
    rw [List.foldl_cons, get?_cons]
    by_cases heq : name = entry.1
    · rw [get?_foldl_insert_of_not_mem (heq ▸ hfirst), get?_insert, if_pos heq, if_pos heq]
      rfl
    · rw [ih _ hrest, get?_insert, if_neg heq, if_neg heq]

/-- Where no name is given twice, the table of a list of entries holds just these. -/
theorem get?_ofList {entries : List (String × α)} (hdistinct : (names entries).Nodup)
    (name : String) : (ofList entries).get? name = get? entries name := by
  have hfold := get?_foldl_insert [] hdistinct name
  rwa [get?_nil, Option.or_none] at hfold

theorem get?_erase_of_ne {fields : Fields α} {name other : String} (hne : other ≠ name) :
    (fields.erase name).get? other = fields.get? other := by
  induction fields with
  | nil => rfl
  | cons entry fields ih =>
    unfold erase at ih ⊢
    by_cases herased : entry.1 = name
    · rw [List.filter_cons_of_neg (by simp [herased]), ih, get?_cons,
        if_neg (fun heq => hne (heq.trans herased))]
    · rw [List.filter_cons_of_pos (by simp [herased]), get?_cons, get?_cons, ih]

theorem not_mem_names_erase (fields : Fields α) (name : String) :
    name ∉ (fields.erase name).names := by
  simp [names, erase]

theorem names_erase_subset (fields : Fields α) (name : String) :
    (fields.erase name).names ⊆ fields.names := by
  intro other hmem
  obtain ⟨entry, hentry, rfl⟩ := List.mem_map.mp hmem
  exact List.mem_map_of_mem (List.mem_filter.mp hentry).1

theorem Sorted.names_pairwise {fields : Fields α} (hsorted : fields.Sorted) :
    fields.names.Pairwise (· < ·) :=
  List.pairwise_map.mpr hsorted

theorem Sorted.names_nodup {fields : Fields α} (hsorted : fields.Sorted) :
    fields.names.Nodup :=
  hsorted.names_pairwise.imp fun hlt => String.ne_of_lt hlt

/-- In a table, the entries in front of one are those with a lesser name. -/
theorem Sorted.get?_front {front rest : Fields α} {name : String} {value : α}
    (hsorted : Sorted (front ++ (name, value) :: rest)) (other : String) :
    get? front other =
      if other < name then get? (front ++ (name, value) :: rest) other else none := by
  obtain ⟨_, hrest, hfront⟩ := List.pairwise_append.mp hsorted
  split
  · rename_i hlt
    have hnone : get? ((name, value) :: rest) other = none := by
      rw [get?_eq_none_iff]
      intro hmem
      obtain ⟨entry, hentry, rfl⟩ := List.mem_map.mp hmem
      rcases List.mem_cons.mp hentry with rfl | hentry
      · exact String.lt_irrefl _ hlt
      · exact String.lt_irrefl _ (String.lt_trans hlt ((List.pairwise_cons.mp hrest).1 _ hentry))
    rw [get?_append, hnone, Option.or_none]
  · rename_i hnot
    rw [get?_eq_none_iff]
    intro hmem
    obtain ⟨entry, hentry, rfl⟩ := List.mem_map.mp hmem
    exact hnot (hfront entry hentry _ List.mem_cons_self)

/-- Where no name is given twice, the table of a list of entries has just the names given. -/
theorem names_ofList_perm {entries : List (String × α)} (hdistinct : (names entries).Nodup) :
    (ofList entries).names.Perm (names entries) := by
  rw [List.perm_ext_iff_of_nodup (sorted_ofList entries).names_nodup hdistinct]
  intro name
  rw [← isSome_get?_iff, get?_ofList hdistinct, isSome_get?_iff]

/-- Two tables with the same names list them in the same order. -/
theorem Sorted.names_eq {β : Type v} {first : Fields α} {second : Fields β}
    (hfirst : first.Sorted) (hsecond : second.Sorted)
    (hsame : ∀ name, name ∈ first.names ↔ name ∈ second.names) : first.names = second.names := by
  have hperm : first.names.Perm second.names :=
    (List.perm_ext_iff_of_nodup hfirst.names_nodup hsecond.names_nodup).mpr hsame
  refine hperm.eq_of_pairwise (fun a b _ _ hab hba => ?_) hfirst.names_pairwise
    hsecond.names_pairwise
  exact absurd (String.lt_trans hab hba) (String.lt_irrefl a)

/-- A table is determined by what it has under each name. -/
theorem Sorted.ext {first second : Fields α} (hfirst : first.Sorted) (hsecond : second.Sorted)
    (hget : ∀ name, first.get? name = second.get? name) : first = second := by
  have hnames : first.names = second.names :=
    hfirst.names_eq hsecond fun name => by
      rw [← isSome_get?_iff, ← isSome_get?_iff, hget]
  induction first generalizing second with
  | nil => exact (List.map_eq_nil_iff.mp hnames.symm).symm
  | cons entry first ih =>
    cases second with
    | nil => simp [names] at hnames
    | cons entry' second =>
      obtain ⟨hname, hrest⟩ : entry.1 = entry'.1 ∧ names first = names second := by
        simpa [names] using hnames
      have hvalue : entry.2 = entry'.2 := by
        have hhead := hget entry.1
        rw [get?_cons, get?_cons, if_pos rfl, if_pos hname] at hhead
        exact Option.some.inj hhead
      have htail : first = second := by
        refine ih (List.Pairwise.of_cons hfirst) (List.Pairwise.of_cons hsecond) (fun name => ?_)
          hrest
        have hother := hget name
        rw [get?_cons, get?_cons, ← hname] at hother
        by_cases heq : name = entry.1
        · have hfresh : entry.1 ∉ names first := (List.nodup_cons.mp hfirst.names_nodup).1
          rw [heq, get?_eq_none_iff.mpr hfresh, get?_eq_none_iff.mpr (hrest ▸ hfresh)]
        · rwa [if_neg heq, if_neg heq] at hother
      rw [htail, Prod.ext hname hvalue]

end Fields

end GraphQuery
