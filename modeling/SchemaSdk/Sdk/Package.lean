import SchemaSdk.Schema.Collect
import SchemaSdk.Schema.Order
import SchemaSdk.Sdk.Client
import SchemaSdk.Text.Tidy

/-!
# Generated packages

The two modules generated for a schema, with the names of their files: the schema module with the
types, each declared after those it uses, and the client module with the operations.
-/
namespace SchemaSdk.Sdk

open SchemaSdk.Schema

/-- How the generated modules are named, and the endpoint the client knows by itself. -/
structure Options where
  clientName : String
  schemaName : Option String
  endpoint : Option String

/-- The name of the file of the client module. -/
def Options.clientFile (o : Options) : String :=
  Text.snakeCase (Identifier.client o.clientName) ++ ".rs"

/-- The name of the file of the schema module. -/
def Options.schemaFile (o : Options) : String := Identifier.schemaModule o.schemaName ++ ".rs"

/-- Why nothing can be generated. -/
inductive GenerateError where
  | schema (e : SchemaError)
  | cycle (e : Cycle)
  | collision (e : MethodCollision)

/-- The message for an error of generation. -/
def GenerateError.message : GenerateError → String
  | schema e => e.message
  | cycle e => e.message
  | collision e => e.message

/-- A module as text, and the name of its file. -/
structure SourceFile where
  name : String
  text : String
  deriving DecidableEq

/-- The generated modules. -/
structure Package where
  client : SourceFile
  schema : SourceFile
  deriving DecidableEq

/-- Lines as a tidied text. -/
def layout (lines : List String) : String :=
  Text.tidy (String.ofList (Text.unlines (lines.map String.toList)))

/-- The modules of a collection. -/
def render (c : Collection) (o : Options) : Except GenerateError Package :=
  match c.topologicalOrder with
  | .error e => .error (.cycle e)
  | .ok models =>
    match Call.ofCollection c with
    | .error e => .error (.collision e)
    | .ok calls =>
      let client := Identifier.client o.clientName
      let schema := Identifier.schemaModule o.schemaName
      .ok {
        client := {
          name := o.clientFile
          text := layout (ClientModule.mk client schema o.endpoint calls).lines }
        schema := {
          name := o.schemaFile
          text := layout (SchemaModule.ofModels c models).lines } }

/-- The modules generated for a schema text. -/
def generate (sdl : String) (o : Options) : Except GenerateError Package :=
  match Collection.parse sdl with
  | .error e => .error (.schema e)
  | .ok c => render c o

end SchemaSdk.Sdk
