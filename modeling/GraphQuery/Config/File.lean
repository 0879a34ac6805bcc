import GraphQuery.Config
import GraphQuery.Config.Document
import GraphQuery.Fields

namespace GraphQuery

namespace Document

/-- The members of a structure with the given names. An array gives them in the order of the names,
    and may end early. An object gives them in any order but none twice, and may have others. -/
def members? (names : List String) : Document → Option (Fields Document)
  | .array items => if items.length ≤ names.length then some (names.zip items) else none
  | .object members => do
    let named ← members.mapM fun (name, member) => do return (← name, member)
    let known := named.filter fun (name, _) => names.contains name
    if (Fields.names known).Nodup then some known else none
  | _ => none

/-- The text of a member of a structure, which may be missing. -/
def text? (members : Fields Document) (name : String) : Option (Option String) :=
  match members.get? name with
  | none => some none
  | some (.string (some s)) => some (some s)
  | some _ => none

end Document

namespace Settings

/-- The settings that a document gives. -/
def Overrides.ofDocument? (document : Document) : Option Overrides := do
  let members ← document.members? ["parameter_prefix", "vector_index_name", "vector_procedure"]
  let parameterStem ← Document.text? members "parameter_prefix"
  let indexTemplate ← Document.text? members "vector_index_name"
  let vectorProcedure ← Document.text? members "vector_procedure"
  return ⟨parameterStem, indexTemplate, vectorProcedure⟩

/-- The settings that the text of a configuration file gives for the compiler. -/
def Overrides.ofText? (text : String) : Option Overrides := do
  let document ← Document.read? text
  let members ← document.members? ["compiler"]
  match members.get? "compiler" with
  | none => return {}
  | some settings => Overrides.ofDocument? settings

/-- Reads the contents of a configuration file, which may be missing. -/
def ofFile (contents : Option ByteArray) : Except ConfigError Settings :=
  match contents.bind String.fromUTF8? with
  | none => .error .unreadable
  | some text =>
    match Overrides.ofText? text with
    | none => .error .malformed
    | some overrides => do
      overrides.settings.validate
      return overrides.settings

/-- The settings in force: those of a configuration file if there is one, else those of the
    environment if it has a say, and else the default ones. -/
def resolve (contents : Option ByteArray) (environment : Overrides) : Except ConfigError Settings :=
  match contents with
  | some bytes => ofFile (some bytes)
  | none => do return (← ofEnvironment environment).getD {}

end Settings

end GraphQuery
