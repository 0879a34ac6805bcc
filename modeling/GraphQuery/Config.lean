import GraphQuery.Text.Basic
import GraphQuery.Text.Character

namespace GraphQuery

/-- The settings that shape the text of a statement. -/
structure Settings where
  /-- What the names of anonymous parameters begin with. -/
  parameterStem : String := "param"
  /-- The name of a vector index, in which the table and the column are still to be filled in. -/
  indexTemplate : String := "\x7btable\x7d_\x7bcolumn\x7d_idx"
  /-- The procedure that searches a vector index. -/
  vectorProcedure : String := "QUERY_VECTOR_INDEX"
  deriving DecidableEq, Inhabited

/-- What a query is compiled under: settings, and which texts are regular expressions. That is for
    a library of regular expressions to say; whoever runs the compiler hands its verdict in, and
    nothing is assumed of it here. -/
structure Config extends Settings where
  acceptsRegex : String → Bool

/-- Why settings cannot be used. -/
inductive ConfigError where
  | unreadable
  | malformed
  | stemNotAlphanumeric (stem : String)
  | stemWithoutLetter (stem : String)
  | blankTemplate
  | blankProcedure
  deriving DecidableEq

namespace ConfigError

/-- The wording of an error. -/
def message : ConfigError → String
  | unreadable => "failed to read configuration"
  | malformed => "invalid configuration"
  | stemNotAlphanumeric stem =>
    s!"invalid configuration value for parameter_prefix: '{stem}' must be non-empty and ASCII " ++
      "alphanumeric"
  | stemWithoutLetter stem =>
    s!"invalid configuration value for parameter_prefix: '{stem}' must start with a letter"
  | blankTemplate =>
    "invalid configuration value for vector_index_name: template must not be empty"
  | blankProcedure =>
    "invalid configuration value for vector_procedure: procedure name must not be empty"

end ConfigError

namespace Settings

/-- Checks the stem of anonymous names, the template and the procedure, in this order. A stem is an
    ASCII letter and further letters and digits. -/
def validate (settings : Settings) : Except ConfigError Unit :=
  let stem := settings.parameterStem.toList
  if stem.isEmpty || !stem.all Char.isAlphanum then
    .error (.stemNotAlphanumeric settings.parameterStem)
  else if !(stem.take 1).all Char.isAlpha then .error (.stemWithoutLetter settings.parameterStem)
  else if Text.isBlank settings.indexTemplate then .error .blankTemplate
  else if Text.isBlank settings.vectorProcedure then .error .blankProcedure
  else .ok ()

/-- The name of the vector index of a table and a column. The table is filled in first, and the
    column then wherever it is asked for, within the name of the table too. -/
def indexName (settings : Settings) (table column : String) : String :=
  let filled := Text.replaceAll "\x7btable\x7d".toList table.toList settings.indexTemplate.toList
  String.ofList (Text.replaceAll "\x7bcolumn\x7d".toList column.toList filled)

/-- Settings of which each may be left out. -/
structure Overrides where
  parameterStem : Option String := none
  indexTemplate : Option String := none
  vectorProcedure : Option String := none
  deriving DecidableEq

/-- The default settings with some of them replaced. -/
def Overrides.settings (overrides : Overrides) : Settings where
  parameterStem := overrides.parameterStem.getD { : Settings }.parameterStem
  indexTemplate := overrides.indexTemplate.getD { : Settings }.indexTemplate
  vectorProcedure := overrides.vectorProcedure.getD { : Settings }.vectorProcedure

/-- The settings of an environment, or none if the environment has no say in any of them. -/
def ofEnvironment (overrides : Overrides) : Except ConfigError (Option Settings) :=
  if overrides = {} then .ok none
  else do
    overrides.settings.validate
    return overrides.settings

end Settings

end GraphQuery
