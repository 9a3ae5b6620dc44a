import SchemaSdk.Files.System
import SchemaSdk.Sdk.Package
import SchemaSdk.Text.Words
import SchemaSdk.Toml.Document

/-!
# Project settings

What is generated from which schema, and where to. A project file may say it, and the command line
may say it instead. Paths in a project file are taken from the directory of the file.
-/
namespace SchemaSdk.Project

/-- What a project file or a command line chooses; what is missing is left open. -/
structure Choices where
  schema : Option String
  clientName : Option String
  schemaName : Option String
  outDir : Option String
  endpoint : Option String
  deriving DecidableEq

/-- Why there are no settings. -/
inductive ProjectError where
  | unreadable (path : String) (e : OsError)
  | malformed (path : String)
  | noSchema
  | noClientName (schema : String)
  deriving DecidableEq

/-- The messages for an error, from the general one to its causes. -/
def ProjectError.chain : ProjectError → List String
  | unreadable path e => ["Failed to read project config: " ++ Path.quoted path, e.message]
  | malformed path => ["Failed to parse project config: " ++ Path.quoted path]
  | noSchema => ["No schema given. Pass a schema path or set `schema` in sdkgen.toml"]
  | noClientName schema => ["Cannot derive a client name from " ++ Path.quoted schema]

namespace Choices

/-- No choices. -/
def none : Choices := ⟨.none, .none, .none, .none, .none⟩

/-- The keys of a project file. -/
def keys : List String := ["schema", "client_name", "schema_name", "out_dir", "endpoint"]

/-- The choices of a project file, which has no other keys and nothing but strings. -/
def ofToml? (entries : List (String × Toml)) : Option Choices := do
  let texts ← entries.mapM fun e => e.2.asString?.map (e.1, ·)
  if texts.all fun e => keys.contains e.1 then
    return {
      schema := texts.lookup "schema"
      clientName := texts.lookup "client_name"
      schemaName := texts.lookup "schema_name"
      outDir := texts.lookup "out_dir"
      endpoint := texts.lookup "endpoint" }
  else .none

/-- The choices with paths taken from a base. -/
def relativeTo (base : String) (c : Choices) : Choices :=
  { c with schema := c.schema.map (Path.join base), outDir := c.outDir.map (Path.join base) }

/-- The choices of a project file at a path. -/
def load (fs : FileSystem) (cwd : Location) (path : String) : Except ProjectError Choices :=
  match fs.read cwd path with
  | .error e => .error (.unreadable path e)
  | .ok text =>
    match (Toml.parse text).bind ofToml? with
    | .none => .error (.malformed path)
    | some c =>
      match Path.parent? path with
      | .none => .ok c
      | some base => .ok (c.relativeTo base)

/-- The name of a project file that need not be named. -/
def fileName : String := "sdkgen.toml"

/-- The choices of the named project file, or of one in a directory if there is one. -/
def discover (fs : FileSystem) (cwd : Location) (named : Option String) (directory : String) :
    Except ProjectError Choices :=
  match named with
  | some path => load fs cwd path
  | .none =>
    let path := Path.join directory fileName
    if fs.isFile cwd path then load fs cwd path else .ok none

/-- The choices of the first, and where it is open, those of the second. -/
def orElse (a b : Choices) : Choices where
  schema := a.schema.or b.schema
  clientName := a.clientName.or b.clientName
  schemaName := a.schemaName.or b.schemaName
  outDir := a.outDir.or b.outDir
  endpoint := a.endpoint.or b.endpoint

end Choices

/-- What is generated, and where to. -/
structure Settings where
  schema : String
  outDir : String
  options : Sdk.Options

namespace Settings

/-- The directory of generated files unless one is chosen. -/
def defaultOutDir : String := "generated"

/-- The name of a client after the file of its schema. -/
def derivedName? (schema : String) : Option String :=
  match Path.fileStem? schema with
  | none => none
  | some stem =>
    let name := Text.pascalCase stem
    if name.isEmpty then none else some name

/-- The settings for choices. A schema has to be chosen, and a client name if none can be taken
from the schema. -/
def ofChoices (c : Choices) : Except ProjectError Settings :=
  match c.schema with
  | none => .error .noSchema
  | some schema =>
    match c.clientName.or (derivedName? schema) with
    | none => .error (.noClientName schema)
    | some clientName =>
      .ok {
        schema := schema
        outDir := c.outDir.getD defaultOutDir
        options := ⟨clientName, c.schemaName, c.endpoint⟩ }

/-- The settings of a project file and a command line, whose choices win. -/
def resolve (file overrides : Choices) : Except ProjectError Settings :=
  ofChoices (overrides.orElse file)

end Settings
end SchemaSdk.Project
