import SchemaSdk.Schema.Name

/-!
# Schema documents

What a schema text says, as far as anything is generated from it. Directives and default values are
checked when a document is read but not kept.
-/
namespace SchemaSdk.Schema

/-- A type as written: a name or a list, either of them possibly required. -/
inductive TypeExpr where
  | named (name : Name) (required : Bool)
  | list (item : TypeExpr) (required : Bool)
  deriving DecidableEq

namespace TypeExpr

/-- A type as it is written. -/
def text : TypeExpr → String
  | named n required => n.text ++ (if required then "!" else "")
  | list item required => "[" ++ item.text ++ "]" ++ (if required then "!" else "")

/-- The type at the bottom of the lists. -/
def base : TypeExpr → Name
  | named n _ => n
  | list item _ => item.base

/-- Whether the type as a whole is required. -/
def isRequired : TypeExpr → Bool
  | named _ required => required
  | list _ required => required

/-- Whether the type is a list. -/
def isList : TypeExpr → Bool
  | named _ _ => false
  | list _ _ => true

/-- Whether the type is a list of required items. -/
def hasRequiredItems : TypeExpr → Bool
  | named _ _ => false
  | list item _ => item.isRequired

end TypeExpr

/-- An argument, or a field of an input type. -/
structure InputDef where
  description : Option String
  name : Name
  type : TypeExpr
  deriving DecidableEq

/-- A field of an object or interface type. -/
structure FieldDef where
  description : Option String
  name : Name
  arguments : List InputDef
  type : TypeExpr
  deriving DecidableEq

/-- A value of an enumeration. -/
structure ValueDef where
  description : Option String
  name : Name
  deriving DecidableEq

/-- What a type definition or extension says beside the name. -/
inductive TypeBody where
  | scalar
  | object (fields : List FieldDef)
  | interface (fields : List FieldDef)
  | union (members : List Name)
  | enumeration (values : List ValueDef)
  | input (fields : List InputDef)
  deriving DecidableEq

/-- A type definition. -/
structure TypeDef where
  description : Option String
  name : Name
  body : TypeBody
  deriving DecidableEq

/-- An extension of a type that is defined elsewhere. -/
structure TypeExtension where
  name : Name
  body : TypeBody
  deriving DecidableEq

/-- The types whose fields are the operations of a schema. -/
structure Roots where
  query : Option String
  mutation : Option String
  subscription : Option String
  deriving DecidableEq

/-- One definition of a document. -/
inductive Definition where
  | schema (roots : Roots)
  | type (d : TypeDef)
  | extension (e : TypeExtension)
  | directive (name : Name)
  deriving DecidableEq

/-- A schema document: its definitions in order. -/
abbrev Document := List Definition

end SchemaSdk.Schema
