import SchemaSdk.Sdk.RustType

/-!
# Request documents

The document that the generated client sends for an operation. It declares a variable for every
argument and binds the argument to it. A result that is a model is selected through the fragment of
the model, so a model shared by several parents is spelled out once; the fragments follow the
operation in the order in which they are first needed.
-/
namespace SchemaSdk.Schema

/-- A text between braces. -/
def braced (s : String) : String := "\x7b " ++ s ++ " \x7d"

/-- What is selected of a field that is no leaf: the fragment of a model, or only the name of the
type where no model is known. -/
inductive Selection where
  | fragment (model : String)
  | typeName
  deriving DecidableEq

/-- The name of the fragment of a model. -/
def fragmentName (model : String) : String := model ++ "Fields"

/-- A selection as it is written. -/
def Selection.text : Selection → String
  | fragment model => braced ("..." ++ fragmentName model)
  | typeName => braced "__typename"

/-- A field with what is selected of it. -/
structure SelectedField where
  name : String
  selection : Option Selection
  deriving DecidableEq

/-- A selected field as it is written. -/
def SelectedField.text (f : SelectedField) : String :=
  match f.selection with
  | some s => f.name ++ " " ++ s.text
  | none => f.name

/-- The fragment that selects all fields of a model. -/
structure Fragment where
  model : String
  fields : List SelectedField
  deriving DecidableEq

/-- A fragment as it is written. -/
def Fragment.text (f : Fragment) : String :=
  "fragment " ++ fragmentName f.model ++ " on " ++ f.model ++ " " ++
    braced (" ".intercalate (f.fields.map (·.text)))

/-- A variable and its type. -/
structure Variable where
  name : String
  type : String
  deriving DecidableEq

/-- A request document: one operation with one root field, and fragments. -/
structure Request where
  kind : OperationKind
  name : String
  header : List Variable
  field : String
  bindings : List (String × String)
  selection : Option Selection
  fragments : List Fragment
  deriving DecidableEq

/-- Texts in parentheses, or nothing if there are none. -/
def parenthesized (items : List String) : String :=
  if items.isEmpty then "" else "(" ++ ", ".intercalate items ++ ")"

/-- A request document as it is written, on one line. -/
def Request.text (r : Request) : String :=
  let operation := r.kind.keyword ++ " " ++ r.name ++
    parenthesized (r.header.map fun v => "$" ++ v.name ++ ": " ++ v.type) ++ " " ++
    braced (r.field ++ parenthesized (r.bindings.map fun (a, v) => a ++ ": $" ++ v) ++
      match r.selection with
      | some s => " " ++ s.text
      | none => "")
  " ".intercalate (operation :: r.fragments.map (·.text))

namespace Collection

/-- What is selected of a field; nothing if it is a leaf. -/
def selectionOf (c : Collection) (f : Field) : Option Selection :=
  if !f.isNamed || c.isEnum f.base || c.isScalar f.base then none
  else match c.model? f.base with
    | some m => some (.fragment m.name)
    | none => some .typeName

/-- The fragment of a model. -/
def fragmentOf (c : Collection) (m : Model) : Fragment :=
  ⟨m.name, m.fields.map fun f => ⟨f.name, c.selectionOf f⟩⟩

/-- The types that the fields of a model refer to, in the order of the fields. -/
def references (m : Model) : List String :=
  (m.fields.filter (·.isNamed)).map (·.base)

/-- The models of the collection that are not among those seen. -/
def unseen (c : Collection) (seen : List String) : Nat :=
  c.models.countP fun m => !seen.contains m.name

/-- Seeing a model leaves fewer that are not seen. -/
theorem unseen_lt {c : Collection} {seen : List String} {name : String} {m : Model}
    (h : c.model? name = some m) (hs : seen.contains name = false) :
    c.unseen (name :: seen) < c.unseen seen := by
  obtain ⟨hm, rfl⟩ := mem_of_model? h
  have hfilter : c.models.filter (fun x => !(m.name :: seen).contains x.name) =
      (c.models.filter fun x => !seen.contains x.name).filter (·.name != m.name) := by
    rw [List.filter_filter]
    refine List.filter_congr fun x _ => ?_
    rw [List.contains_cons, Bool.not_or, bne]
  rw [unseen, unseen, List.countP_eq_length_filter, List.countP_eq_length_filter, hfilter,
    List.length_filter_lt_length_iff_exists]
  exact ⟨m, List.mem_filter.mpr ⟨hm, by rw [hs]; rfl⟩, by simp⟩

/-- The models that the waiting names lead to and that were not seen, in the order of first visit.
The names that a model refers to are visited before the names that wait longer. -/
def visit (c : Collection) (seen : List String) : List String → List Model
  | [] => []
  | name :: waiting =>
    match _found : c.model? name with
    | none => visit c seen waiting
    | some m =>
      if _new : seen.contains name then visit c seen waiting
      else m :: visit c (name :: seen) (references m ++ waiting)
termination_by waiting => (c.unseen seen, waiting.length)
decreasing_by
  · exact .right _ (by simp)
  · exact .right _ (by simp)
  · exact .left _ _ (unseen_lt _found (by simpa using _new))

/-- The models whose fragments the document for an operation defines, given its root field. -/
def fragmentModels (c : Collection) (f : Field) : List Model :=
  c.visit [] [f.typeName]

/-- The request document for an operation. -/
def requestFor (c : Collection) (o : Operation) : Request where
  kind := o.kind
  name := Text.pascalCase o.field.name
  header := o.arguments.map fun a => ⟨a.name, a.sdlType⟩
  field := o.field.name
  bindings := o.arguments.map fun a => (a.name, a.name)
  selection := c.selectionOf o.field
  fragments := (c.fragmentModels o.field).map c.fragmentOf

end Collection
end SchemaSdk.Schema
