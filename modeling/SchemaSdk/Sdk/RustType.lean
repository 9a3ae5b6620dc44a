import SchemaSdk.Schema.Model
import SchemaSdk.Sdk.Identifier

/-!
# Types of the generated code

The Rust type of a field: a primitive for a built-in scalar, the identifier of a declared type, or a
JSON value for what the generated code does not declare. `Option` marks what is not required, and
`Vec` a list.
-/
namespace SchemaSdk.Schema

/-- The primitive type of a built-in scalar. -/
def primitive? : String → Option String
  | "String" => some "String"
  | "Int" => some "i32"
  | "Float" => some "f64"
  | "Boolean" => some "bool"
  | "ID" => some "String"
  | _ => none

/-- The type of values whose type the generated code does not declare. -/
def jsonValue : String := "serde_json::Value"

namespace Field

/-- The primitive type of the base, or the base itself if it has none. -/
def typeName (f : Field) : String := (primitive? f.base).getD f.base

/-- A base type as an option and a list as far as the field asks for it. -/
def wrap (f : Field) (base : String) : String :=
  let inner :=
    if f.list then "Vec<" ++ (if f.itemRequired then base else "Option<" ++ base ++ ">") ++ ">"
    else base
  if f.required then inner else "Option<" ++ inner ++ ">"

/-- The type of the field, given that its base is declared. -/
def rustType (f : Field) : String :=
  f.wrap (if f.isNamed then Identifier.ofType f.base else f.typeName)

end Field

namespace Collection

/-- Whether the generated code declares a type for the name. -/
def declares (c : Collection) (name : String) : Bool :=
  (c.model? name).isSome || c.isEnum name || c.isScalar name

/-- The type of a field in the generated code. -/
def rustTypeOf (c : Collection) (f : Field) : String :=
  if !f.isNamed || c.declares f.base then f.rustType else f.wrap jsonValue

end Collection
end SchemaSdk.Schema
