import SchemaSdk.Schema.Document

/-!
# Models

What code is generated from: models with their fields, enumerations, scalars and operations. A field
keeps the base of its type and whether it and the items of a list are required; lists of lists
count as lists.
-/
namespace SchemaSdk.Schema

/-- The scalars that every schema has. -/
def builtinScalars : List String := ["String", "Int", "Float", "Boolean", "ID"]

/-- A field of a model, an argument of an operation, or an operation's result. -/
structure Field where
  name : String
  description : Option String
  base : String
  required : Bool
  list : Bool
  itemRequired : Bool
  deriving DecidableEq

namespace Field

/-- Whether the base is a type that the schema itself has to define. -/
def isNamed (f : Field) : Bool := !builtinScalars.contains f.base

/-- The type of the field as a schema writes it. -/
def sdlType (f : Field) : String :=
  let inner :=
    if f.list then "[" ++ f.base ++ (if f.itemRequired then "!" else "") ++ "]" else f.base
  if f.required then inner ++ "!" else inner

/-- A field from the parts of its definition. -/
def ofTyped (name : Name) (type : TypeExpr) (description : Option String) : Field where
  name := name.text
  description := description
  base := type.base.text
  required := type.isRequired
  list := type.isList
  itemRequired := type.hasRequiredItems

/-- A defined field without its arguments. -/
def ofDef (d : FieldDef) : Field := ofTyped d.name d.type d.description

/-- A defined argument. -/
def ofInput (d : InputDef) : Field := ofTyped d.name d.type d.description

end Field

/-- An object or interface type. -/
structure Model where
  name : String
  description : Option String
  fields : List Field
  deriving DecidableEq

/-- The types that the fields of a model refer to, each once, in the order of their names. -/
def Model.dependencies (m : Model) : List String :=
  ((m.fields.filter (·.isNamed)).map (·.base)).eraseDups.mergeSort (fun a b => a ≤ b)

/-- An enumeration. -/
structure Enumeration where
  name : String
  description : Option String
  values : List String
  deriving DecidableEq

/-- Whether an operation reads or writes. -/
inductive OperationKind where
  | query
  | mutation
  deriving DecidableEq

/-- How a document names the kind of an operation. -/
def OperationKind.keyword : OperationKind → String
  | query => "query"
  | mutation => "mutation"

/-- A field of a root type. Its own type is what the operation returns. -/
structure RootField where
  field : Field
  arguments : List Field
  deriving DecidableEq

/-- A root field with the kind of its root. -/
structure Operation extends RootField where
  kind : OperationKind
  deriving DecidableEq

/-- All that a schema defines, each kind in the order of definition. -/
structure Collection where
  models : List Model
  enums : List Enumeration
  scalars : List String
  queries : List RootField
  mutations : List RootField
  deriving DecidableEq

namespace Collection

/-- The operations, queries before mutations. -/
def operations (c : Collection) : List Operation :=
  c.queries.map (⟨·, .query⟩) ++ c.mutations.map (⟨·, .mutation⟩)

/-- The first model with a name. -/
def model? (c : Collection) (name : String) : Option Model :=
  c.models.find? (·.name == name)

/-- Whether an enumeration has the name. -/
def isEnum (c : Collection) (name : String) : Bool :=
  c.enums.any (·.name == name)

/-- Whether a scalar has the name. -/
def isScalar (c : Collection) (name : String) : Bool :=
  c.scalars.contains name

/-- A model that is found is one of the collection and has the name. -/
theorem mem_of_model? {c : Collection} {name : String} {m : Model} (h : c.model? name = some m) :
    m ∈ c.models ∧ m.name = name :=
  ⟨List.mem_of_find?_eq_some h, by simpa using List.find?_some h⟩

end Collection
end SchemaSdk.Schema
