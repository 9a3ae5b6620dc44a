import SchemaSdk.Schema.Model
import SchemaSdk.Sdk.Identifier

/-!
# Names of operations in the client

Every operation becomes a method and a constant with its document. Queries keep the names of their
fields. A mutation whose name is taken gets another one that says what it is; if that is taken too,
as is the name of a query that another query has, the client cannot be generated.
-/
namespace SchemaSdk.Schema

/-- Two operations that would have the same method. -/
structure MethodCollision where
  method : String
  deriving DecidableEq

/-- The message for a collision of methods. -/
def MethodCollision.message (e : MethodCollision) : String :=
  "Operations collide on client method \x60" ++ e.method ++ "\x60"

namespace Operation

/-- The method name of the field. -/
def plainMethod (o : Operation) : String := Identifier.ofField o.field.name

/-- The method name that says that the operation is a mutation. -/
def mutationMethod (o : Operation) : String :=
  Identifier.ofField (Text.snakeCase o.field.name ++ "_mutation")

/-- The method name of an operation when some names are taken. -/
def method (taken : List String) (o : Operation) : String :=
  if o.kind = .mutation ∧ taken.contains o.plainMethod then o.mutationMethod else o.plainMethod

/-- The name of the constant that holds the document. -/
def constant (o : Operation) : String :=
  Text.upperCase (Text.snakeCase o.field.name) ++ "_" ++ Text.upperCase o.kind.keyword

/-- The method names of operations, each different from those before it. -/
def methods (taken : List String) : List Operation → Except MethodCollision (List String)
  | [] => .ok []
  | o :: os =>
    let name := o.method taken
    if taken.contains name then .error ⟨name⟩
    else (methods (name :: taken) os).map (name :: ·)

end Operation
end SchemaSdk.Schema
