import GraphQuery.Config
import GraphQuery.Proofs.Text.Substitute

namespace GraphQuery.Settings

/-- The name of an index as its template describes it: the places of the table and of the column are
    filled in at once, and nothing else is changed. -/
def substituted (settings : Settings) (table column : String) : String :=
  String.ofList (Text.substituteAll
    [("\x7btable\x7d".toList, table.toList), ("\x7bcolumn\x7d".toList, column.toList)]
    settings.indexTemplate.toList)

theorem toList_substituted (settings : Settings) (table column : String) :
    (settings.substituted table column).toList = Text.substituteAll
      [("\x7btable\x7d".toList, table.toList), ("\x7bcolumn\x7d".toList, column.toList)]
      settings.indexTemplate.toList :=
  String.toList_ofList

/-- The marks of the table and of the column in a template do not overlap. -/
theorem marks_apart : Text.Apart '\x7b' "table\x7d".toList "column\x7d".toList :=
  ⟨by decide, by decide, by decide, by decide⟩

/-- The name of an index is as its template describes it exactly if the places of the column that
    there are once the table is filled in are those of the template, and none that the name of the
    table has brought along; or if the column is itself called like its place. -/
theorem indexName_eq_substituted_iff (settings : Settings) (table column : String) :
    settings.indexName table column = settings.substituted table column ↔
      column = "\x7bcolumn\x7d" ∨
        Text.occurrences "\x7bcolumn\x7d".toList
            (settings.substituted table "\x7bcolumn\x7d").toList =
          Text.occurrences "\x7bcolumn\x7d".toList settings.indexTemplate.toList := by
  rw [toList_substituted, indexName, substituted, String.ofList_inj, ← String.toList_inj]
  exact marks_apart.replaceAll_replaceAll_eq_iff _ _ _

/-- It is so for every column if a brace opens nothing but the places of the template. -/
theorem indexName_eq_substituted {settings : Settings} {table : String}
    (hbrace : '\x7b' ∉ (settings.substituted table "").toList) (column : String) :
    settings.indexName table column = settings.substituted table column := by
  rw [toList_substituted] at hbrace
  rw [indexName, substituted, String.ofList_inj]
  exact marks_apart.replaceAll_replaceAll_eq hbrace _

theorem toList_substituted_default (table column : String) :
    (({ } : Settings).substituted table column).toList =
      table.toList ++ '_' :: (column.toList ++ "_idx".toList) := by
  rw [toList_substituted]
  simp [Text.substituteAll]

/-- The template that is there by default gives every table without a brace the name that it should
    have. -/
theorem indexName_default {table : String} (hbrace : '\x7b' ∉ table.toList) (column : String) :
    ({ } : Settings).indexName table column = table ++ "_" ++ column ++ "_idx" := by
  have hrest : '\x7b' ∉ (({ } : Settings).substituted table "").toList := by
    rw [toList_substituted_default]
    simp [hbrace]
  rw [indexName_eq_substituted hrest, ← String.toList_inj, toList_substituted_default]
  simp

/-- A table that is named like the place of the column loses its name to the column, and so does one
    whose name the template puts between braces. -/
theorem indexName_ne_substituted :
    ({ } : Settings).indexName "\x7bcolumn\x7d" "embedding" = "embedding_embedding_idx" ∧
      ({ } : Settings).substituted "\x7bcolumn\x7d" "embedding" =
        "\x7bcolumn\x7d_embedding_idx" ∧
      ({ indexTemplate := "\x7b\x7btable\x7d\x7d_idx" } : Settings).indexName "column" "vec" =
        "vec_idx" ∧
      ({ indexTemplate := "\x7b\x7btable\x7d\x7d_idx" } : Settings).substituted "column" "vec" =
        "\x7bcolumn\x7d_idx" := by
  decide +kernel

end GraphQuery.Settings
