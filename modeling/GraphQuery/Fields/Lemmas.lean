import GraphQuery.Fields

namespace GraphQuery

namespace Fields

variable {α : Type u}

/-- Entries are in the order of a table. Distinctness of their names follows. -/
def Sorted (fields : Fields α) : Prop :=
  fields.Pairwise fun a b => a.1 < b.1

theorem sorted_nil : Sorted ([] : Fields α) :=
  List.Pairwise.nil

theorem mem_insert {name : String} {value : α} {entry : String × α} {fields : Fields α}
    (hmem : entry ∈ fields.insert name value) : entry = (name, value) ∨ entry ∈ fields := by
  induction fields with
  | nil => simpa [insert] using hmem
  | cons head rest ih =>
    unfold insert at hmem
    split at hmem
    · simpa using hmem
    · split at hmem
      · rcases List.mem_cons.mp hmem with heq | hrest
        · exact Or.inl heq
        · exact Or.inr (List.mem_cons_of_mem _ hrest)
      · rcases List.mem_cons.mp hmem with heq | hrest
        · exact Or.inr (heq ▸ List.mem_cons_self)
        · exact (ih hrest).imp_right (List.mem_cons_of_mem _)

/-- Putting an entry into a table gives a table. -/
theorem sorted_insert {name : String} {value : α} {fields : Fields α} (hsorted : fields.Sorted) :
    (fields.insert name value).Sorted := by
  induction fields with
  | nil => exact List.pairwise_singleton _ _
  | cons head rest ih =>
    obtain ⟨hhead, hrest⟩ := List.pairwise_cons.mp hsorted
    unfold insert
    split
    · rename_i hlt
      refine List.Pairwise.cons (fun entry hmem => ?_) hsorted
      rcases List.mem_cons.mp hmem with heq | hmem
      · exact heq ▸ hlt
      · exact String.lt_trans hlt (hhead entry hmem)
    · rename_i hlt
      split
      · rename_i heq
        exact List.Pairwise.cons (fun entry hmem => heq ▸ hhead entry hmem) hrest
      · rename_i hne
        refine List.Pairwise.cons (fun entry hmem => ?_) (ih hrest)
        rcases mem_insert hmem with heq | hmem
        · rcases Std.lt_trichotomy name head.1 with h | h | h
          · exact absurd h hlt
          · exact absurd h hne
          · exact heq ▸ h
        · exact hhead entry hmem

theorem sorted_foldl_insert {entries : List (String × α)} {fields : Fields α}
    (hsorted : fields.Sorted) :
    (entries.foldl (fun fields entry => fields.insert entry.1 entry.2) fields).Sorted := by
  induction entries generalizing fields with
  | nil => exact hsorted
  | cons entry entries ih => exact ih (sorted_insert hsorted)

/-- The table of any list of entries is sorted. -/
theorem sorted_ofList (entries : List (String × α)) : (ofList entries).Sorted :=
  sorted_foldl_insert sorted_nil

end Fields

end GraphQuery
