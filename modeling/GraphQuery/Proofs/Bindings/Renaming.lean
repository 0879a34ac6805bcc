import GraphQuery.Proofs.Bindings.Merge
import Mathlib.Data.List.Nodup

namespace GraphQuery

namespace Fields

variable {α : Type u} {rename : String → String} {fields : Fields α}

/-- Entries with other names. -/
def renamed (rename : String → String) (fields : Fields α) : Fields α :=
  fields.map fun (name, value) => (rename name, value)

theorem names_renamed : (fields.renamed rename).names = fields.names.map rename := by
  rw [names, renamed, List.map_map, names, List.map_map]
  rfl

/-- What a name has, its new name has, unless another name gets the same one. -/
theorem get?_renamed {name : String} (hinjective : ∀ other ∈ fields.names,
    rename other = rename name → other = name) :
    (fields.renamed rename).get? (rename name) = fields.get? name := by
  induction fields with
  | nil => rfl
  | cons entry fields ih =>
    have hrest := ih fun other hmem => hinjective other (List.mem_cons_of_mem _ hmem)
    rw [renamed, List.map_cons, get?_cons, get?_cons]
    by_cases heq : name = entry.1
    · rw [if_pos heq, if_pos (congrArg rename heq)]
    · have hne : rename name ≠ rename entry.1 := by
        intro hrename
        exact heq (hinjective entry.1 List.mem_cons_self hrename.symm).symm
      rw [if_neg heq, if_neg hne]
      exact hrest

end Fields

namespace Bindings

variable {rename : String → String} {after : Bindings} {entries : Fields Value}

/-- Parameters with other names. -/
def renamed (rename : String → String) (bindings : Bindings) : Bindings :=
  ofList (bindings.table.renamed rename)

/-- Where no two entries get the same name, the renamed table holds the renamed entries. -/
theorem Extends.renamed (hextends : empty.Extends entries after)
    (hinjective : ∀ first ∈ entries.names, ∀ second ∈ entries.names,
      rename first = rename second → first = second) :
    empty.Extends (entries.renamed rename) (after.renamed rename) := by
  have htable : ∀ name, Fields.get? after.table name = Fields.get? entries name := by
    intro name
    have hget := hextends name
    rwa [get?_empty, Option.none_or] at hget
  have hnames : ∀ name, name ∈ Fields.names after.table ↔ name ∈ Fields.names entries := by
    intro name
    rw [← Fields.isSome_get?_iff, htable, Fields.isSome_get?_iff]
  have hdistinct : (Fields.names (after.table.renamed rename)).Nodup := by
    rw [Fields.names_renamed]
    refine List.Nodup.map_on (fun first hfirst second hsecond => ?_) after.sorted.names_nodup
    exact hinjective first ((hnames first).mp hfirst) second ((hnames second).mp hsecond)
  intro name
  rw [get?_empty, Option.none_or]
  refine (Fields.get?_ofList hdistinct name).trans ?_
  by_cases hname : name ∈ Fields.names (entries.renamed rename)
  · rw [Fields.names_renamed] at hname
    obtain ⟨source, hsource, rfl⟩ := List.mem_map.mp hname
    rw [Fields.get?_renamed fun other hother => hinjective other hother source hsource,
      Fields.get?_renamed fun other hother =>
        hinjective other ((hnames other).mp hother) source hsource, htable]
  · have hother : name ∉ Fields.names (after.table.renamed rename) := by
      rw [Fields.names_renamed, List.mem_map] at hname ⊢
      rintro ⟨source, hsource, rfl⟩
      exact hname ⟨source, (hnames source).mp hsource, rfl⟩
    rw [Fields.get?_eq_none_iff.mpr hname, Fields.get?_eq_none_iff.mpr hother]

end Bindings

end GraphQuery
