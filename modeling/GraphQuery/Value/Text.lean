import GraphQuery.Binary.Text
import GraphQuery.Text.Basic
import GraphQuery.Value

namespace GraphQuery

namespace Value

mutual

/-- A value as it is written in messages. Texts are quoted literals; identifiers and times stand
    between plain quotes. -/
def text : Value → String
  | .null => "NULL"
  | .bool b => if b then "true" else "false"
  | .int n => toString n.val
  | .float x => x.text
  | .double x => x.text
  | .string s => Text.quoted s
  | .uuid u => "'" ++ u.text ++ "'"
  | .timestamp t => "'" ++ t.text ++ "'"
  | .date d => "'" ++ d.text ++ "'"
  | .internalId id => id.text
  | .list items => "[" ++ Text.commaJoin (itemTexts items) ++ "]"
  | .map entries => "\x7b" ++ Text.commaJoin (entryTexts entries) ++ "\x7d"
  | .node _ label properties =>
    "(:" ++ label ++ " \x7b" ++ Text.commaJoin (entryTexts properties) ++ "\x7d)"
  | .rel _ label _ _ properties =>
    "[:" ++ label ++ " \x7b" ++ Text.commaJoin (entryTexts properties) ++ "\x7d]"

/-- The texts of the items of a list. -/
def itemTexts : List Value → List String
  | [] => []
  | item :: items => text item :: itemTexts items

/-- The entries of a table, each with its name in front. -/
def entryTexts : List (String × Value) → List String
  | [] => []
  | (name, value) :: entries => (name ++ ": " ++ text value) :: entryTexts entries

end

end Value

end GraphQuery
