import SchemaSdk.Text.Words
import SchemaSdk.Text.Blank

/-!
# Identifiers of the generated code

The names of a schema become Rust identifiers: fields and methods in snake case, types and variants
in pascal case. A result that the language reserves is written as a raw identifier, or with an
underscore after it where raw identifiers are not allowed; one that starts with a digit gets an
underscore before it.
-/
namespace SchemaSdk.Identifier

open SchemaSdk.Text

/-- The keywords that can be written as raw identifiers. -/
def rawKeywords : List String := [
  "abstract", "as", "async", "await", "become", "box", "break", "const", "continue", "do",
  "dyn", "else", "enum", "extern", "false", "final", "fn", "for", "gen", "if", "impl", "in",
  "let", "loop", "macro", "match", "mod", "move", "mut", "override", "priv", "pub", "ref",
  "return", "static", "struct", "trait", "true", "try", "type", "typeof", "unsafe", "unsized",
  "use", "virtual", "where", "while", "yield"]

/-- The keywords that cannot be raw identifiers. -/
def reservedKeywords : List String := ["crate", "self", "Self", "super"]

/-- A cased name as an identifier. -/
def escape (name : String) : String :=
  if reservedKeywords.contains name then name ++ "_"
  else if rawKeywords.contains name then "r#" ++ name
  else if name.toList.head?.any Char.isDigit then "_" ++ name
  else name

/-- The identifier of a field, a parameter or a method. -/
def ofField (name : String) : String := escape (snakeCase name)

/-- The identifier of a type or a variant. -/
def ofType (name : String) : String := escape (pascalCase name)

/-- An identifier without the marks that make it a raw one. -/
def withoutRaw (ident : List Char) : List Char :=
  match ident with
  | 'r' :: '#' :: rest => withoutRaw rest
  | _ => ident

/-- The name of the client type, which ends in `Client` exactly once. -/
def client (name : String) : String :=
  let pascal := pascalCase name
  if "Client".toList.isSuffixOf pascal.toList then pascal else pascal ++ "Client"

/-- The name of the schema module, `schema` unless a visible one is given. -/
def schemaModule (name : Option String) : String :=
  match name with
  | some name => if (trim name.toList).isEmpty then "schema" else snakeCase name
  | none => "schema"

end SchemaSdk.Identifier
