import SchemaSdk.Sdk.RustType
import SchemaSdk.Text.Blank

/-!
# Declarations of the generated code

The types that the schema module declares, as values, and how each is written. Scalars are aliases
of strings, enumerations and models become types that serialize to the names of the schema. A
description becomes a documentation comment and appears nowhere else.
-/
namespace SchemaSdk.Sdk

open SchemaSdk.Schema

/-- The lines of a description, without blanks around it and at the ends of its lines. -/
def docLines (description : Option String) : List String :=
  match description with
  | none => []
  | some d => (Text.lines (Text.trim d.toList)).map fun l => String.ofList (Text.trimEnd l)

/-- Documentation lines as a comment behind an indentation. -/
def docComment (indent : String) (doc : List String) : List String :=
  doc.map fun l => indent ++ "/// " ++ l

/-- A field of a struct or a parameter of a method. `name` is how the schema calls it. -/
structure Member where
  ident : String
  name : String
  type : String
  doc : List String
  optional : Bool
  deriving DecidableEq

namespace Member

/-- The member for a field of a model or an argument. -/
def ofField (c : Collection) (f : Field) : Member where
  ident := Identifier.ofField f.name
  name := f.name
  type := c.rustTypeOf f
  doc := docLines f.description
  optional := !f.required

/-- Whether serialization has to be told the name. -/
def isRenamed (m : Member) : Bool :=
  Identifier.withoutRaw m.ident.toList != m.name.toList

/-- The attribute that tells how a field is serialized. -/
def serdeAttribute (m : Member) : List String :=
  match m.isRenamed, m.optional with
  | true, true => ["    #[serde(rename = \"" ++ m.name ++ "\", default)]"]
  | true, false => ["    #[serde(rename = \"" ++ m.name ++ "\")]"]
  | false, true => ["    #[serde(default)]"]
  | false, false => []

/-- The lines of a field of a struct. -/
def lines (m : Member) : List String :=
  docComment "    " m.doc ++ m.serdeAttribute ++ ["    pub " ++ m.ident ++ ": " ++ m.type ++ ","]

end Member

/-- A variant of an enum. -/
structure Variant where
  ident : String
  value : String
  deriving DecidableEq

/-- The lines of a variant. -/
def Variant.lines (v : Variant) : List String :=
  (if v.ident = v.value then [] else ["    #[serde(rename = \"" ++ v.value ++ "\")]"]) ++
    ["    " ++ v.ident ++ ","]

/-- A declaration of the schema module. -/
inductive Declaration where
  | synonym (ident : String)
  | enumeration (ident : String) (doc : List String) (variants : List Variant)
  | struct (ident : String) (model : String) (doc : List String) (members : List Member)
  deriving DecidableEq

namespace Declaration

/-- The identifier that a declaration declares. -/
def ident : Declaration → String
  | synonym i | enumeration i _ _ | struct i _ _ _ => i

/-- The alias for a scalar. -/
def ofScalar (name : String) : Declaration := synonym (Identifier.ofType name)

/-- The enum for an enumeration. -/
def ofEnum (e : Enumeration) : Declaration :=
  enumeration (Identifier.ofType e.name) (docLines e.description)
    (e.values.map fun v => ⟨Identifier.ofType v, v⟩)

/-- The struct for a model. -/
def ofModel (c : Collection) (m : Model) : Declaration :=
  struct (Identifier.ofType m.name) m.name (docLines m.description)
    (m.fields.map (Member.ofField c))

/-- The lines of a declaration. -/
def lines : Declaration → List String
  | synonym ident => [
      "/// Custom scalar \x60" ++ ident ++ "\x60, carried as its string representation.",
      "pub type " ++ ident ++ " = String;"]
  | enumeration ident doc variants =>
    docComment "" doc ++
      ["#[derive(Debug, Clone, Copy, PartialEq, Eq, Hash, Serialize, Deserialize)]",
        "pub enum " ++ ident ++ " \x7b"] ++
      variants.flatMap (·.lines) ++ ["\x7d", ""]
  | struct ident model doc members =>
    docComment "" doc ++
      ["#[derive(Debug, Clone, PartialEq, Serialize, Deserialize)]",
        "pub struct " ++ ident ++ " \x7b"] ++
      members.flatMap (·.lines) ++
      ["\x7d", "",
        "impl " ++ ident ++ " \x7b",
        "    /// Name of the GraphQL type this struct mirrors.",
        "    pub const TYPE_NAME: &'static str = \"" ++ model ++ "\";",
        "\x7d", ""]

end Declaration

/-- The declarations of a schema module: the aliases, and the types that may use them. -/
structure SchemaModule where
  aliases : List Declaration
  types : List Declaration

namespace SchemaModule

/-- The schema module of a collection, with the models in the given order. -/
def ofModels (c : Collection) (models : List Model) : SchemaModule where
  aliases := c.scalars.map .ofScalar
  types := c.enums.map .ofEnum ++ models.map (.ofModel c)

/-- All declarations in order. -/
def declarations (m : SchemaModule) : List Declaration := m.aliases ++ m.types

/-- What stands before the declarations. -/
def header : List String := [
  "//! Data types generated from a GraphQL schema by sdkgen.",
  "//!",
  "//! Do not edit by hand; regenerate with \x60sdkgen generate\x60.",
  "",
  "#![allow(clippy::all)]",
  "",
  "use serde::\x7bDeserialize, Serialize\x7d;",
  ""]

/-- The lines of the module before tidying. -/
def lines (m : SchemaModule) : List String :=
  header ++ m.aliases.flatMap (·.lines) ++ [""] ++ m.types.flatMap (·.lines)

end SchemaModule
end SchemaSdk.Sdk
