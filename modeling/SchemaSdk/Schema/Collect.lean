import SchemaSdk.Schema.Grammar
import SchemaSdk.Schema.Model

/-!
# From documents to collections

Object and interface types become models; the fields of the root types for queries and mutations
become operations, and those of the root for subscriptions are passed over. A schema block lists the
roots exhaustively; without one they are `Query`, `Mutation` and `Subscription`. Extensions may come
before the type they extend, so they are applied after all definitions.
-/
namespace SchemaSdk.Schema

/-- Why a schema text has no collection. -/
inductive SchemaError where
  | malformed (f : Fault)
  | undefinedExtension (name : String)
  | duplicateType (name : String)

/-- The message for a schema error. -/
def SchemaError.message : SchemaError → String
  | malformed f => "Failed to parse SDL: " ++ f.message
  | undefinedExtension name =>
    "Failed to parse SDL: extension of undefined type \x60" ++ name ++ "\x60"
  | duplicateType name => "Type \x60" ++ name ++ "\x60 is defined more than once"

namespace Roots

/-- The roots of a schema without a schema block. -/
def conventional : Roots := ⟨some "Query", some "Mutation", some "Subscription"⟩

/-- The kind of operations that the fields of a type are. -/
def kindOf (r : Roots) (name : String) : Option OperationKind :=
  if r.query = some name then some .query
  else if r.mutation = some name then some .mutation
  else none

/-- Whether a type is the root for subscriptions. -/
def isSubscription (r : Roots) (name : String) : Bool := r.subscription == some name

end Roots

namespace Document

/-- The roots of a document: those of its first schema block, or the conventional ones. -/
def roots (d : Document) : Roots :=
  (d.findSome? fun | .schema r => some r | _ => none).getD .conventional

/-- The type definitions of a document. -/
def types (d : Document) : List TypeDef :=
  d.filterMap fun | .type t => some t | _ => none

/-- The type extensions of a document. -/
def extensions (d : Document) : List TypeExtension :=
  d.filterMap fun | .extension e => some e | _ => none

end Document

/-- The first name that repeats an earlier one. -/
def firstRepeated (seen : List String) : List String → Option String
  | [] => none
  | n :: ns => if seen.contains n then some n else firstRepeated (n :: seen) ns

/-- A field of a root type with its arguments. -/
def RootField.ofDef (d : FieldDef) : RootField :=
  ⟨.ofDef d, d.arguments.map .ofInput⟩

/-- The model that a type definition is, if it is one. -/
def TypeDef.model? (roots : Roots) (t : TypeDef) : Option Model :=
  match t.body with
  | .object fields =>
    if (roots.kindOf t.name.text).isSome || roots.isSubscription t.name.text then none
    else some ⟨t.name.text, t.description, fields.map .ofDef⟩
  | .interface fields => some ⟨t.name.text, t.description, fields.map .ofDef⟩
  | _ => none

/-- The enumeration that a type definition is, if it is one. -/
def TypeDef.enum? (t : TypeDef) : Option Enumeration :=
  match t.body with
  | .enumeration values => some ⟨t.name.text, t.description, values.map (·.name.text)⟩
  | _ => none

/-- The scalar that a type definition is, if it is one. -/
def TypeDef.scalar? (t : TypeDef) : Option String :=
  match t.body with
  | .scalar => some t.name.text
  | _ => none

/-- The fields of a type, defined or extended, if it is the root of a kind of operations. -/
def TypeBody.rootFields (roots : Roots) (kind : OperationKind) (name : String) :
    TypeBody → List RootField
  | .object fields => if roots.kindOf name = some kind then fields.map .ofDef else []
  | _ => []

/-- The root fields for a kind of operations: those of the definition, then those of extensions. -/
def Document.rootFields (d : Document) (kind : OperationKind) : List RootField :=
  d.types.flatMap (fun t => t.body.rootFields d.roots kind t.name.text) ++
    d.extensions.flatMap fun e => e.body.rootFields d.roots kind e.name.text

namespace Collection

/-- What a document defines, without its extensions. -/
def ofTypes (d : Document) : Collection where
  models := d.types.filterMap (·.model? d.roots)
  enums := d.types.filterMap (·.enum?)
  scalars := d.types.filterMap (·.scalar?)
  queries := d.rootFields .query
  mutations := d.rootFields .mutation

/-- Adds fields to the model with a name. -/
def extendModel (c : Collection) (name : String) (fields : List Field) :
    Except SchemaError Collection :=
  if (c.model? name).isSome then
    .ok { c with models := c.models.map fun m =>
      if m.name = name then { m with fields := m.fields ++ fields } else m }
  else .error (.undefinedExtension name)

/-- Adds values to the enumeration with a name. -/
def extendEnum (c : Collection) (name : String) (values : List String) :
    Except SchemaError Collection :=
  if c.isEnum name then
    .ok { c with enums := c.enums.map fun e =>
      if e.name = name then { e with values := e.values ++ values } else e }
  else .error (.undefinedExtension name)

/-- Applies an extension. Those of roots are operations already. -/
def extend (roots : Roots) (c : Collection) (e : TypeExtension) : Except SchemaError Collection :=
  let name := e.name.text
  match e.body with
  | .object fields =>
    if (roots.kindOf name).isSome || roots.isSubscription name then .ok c
    else c.extendModel name (fields.map .ofDef)
  | .interface fields => c.extendModel name (fields.map .ofDef)
  | .enumeration values => c.extendEnum name (values.map (·.name.text))
  | _ => .ok c

/-- What a document defines. -/
def ofDocument (d : Document) : Except SchemaError Collection :=
  match firstRepeated [] (d.types.map (·.name.text)) with
  | some name => .error (.duplicateType name)
  | none => d.extensions.foldlM (extend d.roots) (ofTypes d)

/-- What a schema text defines. -/
def parse (s : String) : Except SchemaError Collection :=
  match Document.parse s with
  | .ok d => ofDocument d
  | .error f => .error (.malformed f)

end Collection
end SchemaSdk.Schema
