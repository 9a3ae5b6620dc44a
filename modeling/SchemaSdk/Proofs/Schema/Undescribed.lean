import SchemaSdk.Schema.Collect

/-!
# Schemas without their descriptions

What remains of a document and of a collection when all descriptions are deleted. Collecting a
document goes the same way with and without them: a collection is the same up to its descriptions,
and so is an error.
-/
namespace SchemaSdk.Schema

/-! ## Documents -/

def InputDef.undescribed (d : InputDef) : InputDef := { d with description := none }

def FieldDef.undescribed (d : FieldDef) : FieldDef :=
  { d with description := none, arguments := d.arguments.map (·.undescribed) }

def ValueDef.undescribed (d : ValueDef) : ValueDef := { d with description := none }

def TypeBody.undescribed : TypeBody → TypeBody
  | scalar => scalar
  | object fields => object (fields.map (·.undescribed))
  | interface fields => interface (fields.map (·.undescribed))
  | union members => union members
  | enumeration values => enumeration (values.map (·.undescribed))
  | input fields => input (fields.map (·.undescribed))

def TypeDef.undescribed (t : TypeDef) : TypeDef := ⟨none, t.name, t.body.undescribed⟩

def TypeExtension.undescribed (e : TypeExtension) : TypeExtension := ⟨e.name, e.body.undescribed⟩

def Definition.undescribed : Definition → Definition
  | schema roots => schema roots
  | type t => type t.undescribed
  | extension e => extension e.undescribed
  | directive name => directive name

/-- A document without the descriptions of its types, fields, arguments and values. -/
def Document.undescribed (d : Document) : Document := d.map (·.undescribed)

/-! ## Collections -/

def Field.undescribed (f : Field) : Field := { f with description := none }

def Model.undescribed (m : Model) : Model := ⟨m.name, none, m.fields.map (·.undescribed)⟩

def Enumeration.undescribed (e : Enumeration) : Enumeration := { e with description := none }

def RootField.undescribed (r : RootField) : RootField :=
  ⟨r.field.undescribed, r.arguments.map (·.undescribed)⟩

/-- A collection without the descriptions of its types, fields and arguments. -/
def Collection.undescribed (c : Collection) : Collection where
  models := c.models.map (·.undescribed)
  enums := c.enums.map (·.undescribed)
  scalars := c.scalars
  queries := c.queries.map (·.undescribed)
  mutations := c.mutations.map (·.undescribed)

section Fields

@[simp] theorem Field.ofDef_undescribed (d : FieldDef) :
    Field.ofDef d.undescribed = (Field.ofDef d).undescribed := rfl

@[simp] theorem Field.ofInput_undescribed (d : InputDef) :
    Field.ofInput d.undescribed = (Field.ofInput d).undescribed := rfl

@[simp] theorem RootField.ofDef_undescribed (d : FieldDef) :
    RootField.ofDef d.undescribed = (RootField.ofDef d).undescribed := by
  simp [RootField.ofDef, RootField.undescribed, FieldDef.undescribed, Function.comp_def]
  rfl

@[simp] theorem ValueDef.name_undescribed (d : ValueDef) : d.undescribed.name = d.name := rfl

@[simp] theorem Field.name_undescribed (f : Field) : f.undescribed.name = f.name := rfl

@[simp] theorem Field.description_undescribed (f : Field) : f.undescribed.description = none := rfl

@[simp] theorem Field.base_undescribed (f : Field) : f.undescribed.base = f.base := rfl

@[simp] theorem Field.required_undescribed (f : Field) :
    f.undescribed.required = f.required := rfl

@[simp] theorem Model.name_undescribed (m : Model) : m.undescribed.name = m.name := rfl

@[simp] theorem Model.fields_undescribed (m : Model) :
    m.undescribed.fields = m.fields.map (·.undescribed) := rfl

@[simp] theorem Enumeration.name_undescribed (e : Enumeration) : e.undescribed.name = e.name := rfl

end Fields

namespace Document

theorem types_undescribed (d : Document) : d.undescribed.types = d.types.map (·.undescribed) := by
  rw [types, types, undescribed, List.filterMap_map, List.map_filterMap]
  congr 1
  funext x
  cases x <;> rfl

theorem extensions_undescribed (d : Document) :
    d.undescribed.extensions = d.extensions.map (·.undescribed) := by
  rw [extensions, extensions, undescribed, List.filterMap_map, List.map_filterMap]
  congr 1
  funext x
  cases x <;> rfl

@[simp] theorem roots_undescribed (d : Document) : d.undescribed.roots = d.roots := by
  rw [roots, roots, undescribed, List.findSome?_map]
  congr 2
  funext x
  cases x <;> rfl

end Document

/-! ## Collecting -/

section TypeDef

variable (t : TypeDef) (roots : Roots)

theorem TypeDef.model?_undescribed :
    t.undescribed.model? roots = (t.model? roots).map (·.undescribed) := by
  obtain ⟨description, name, body⟩ := t
  cases body with
  | object fields =>
    change (if (roots.kindOf name.text).isSome || roots.isSubscription name.text then none
      else some (Model.mk name.text none ((fields.map (·.undescribed)).map Field.ofDef))) = _
    rw [TypeDef.model?]
    split
    · rfl
    · simp [Model.undescribed, Function.comp_def]
  | interface fields =>
    simp [TypeDef.undescribed, TypeBody.undescribed, TypeDef.model?, Model.undescribed,
      Function.comp_def]
  | _ => rfl

theorem TypeDef.enum?_undescribed : t.undescribed.enum? = t.enum?.map (·.undescribed) := by
  obtain ⟨description, name, body⟩ := t
  cases body with
  | enumeration values =>
    simp [TypeDef.undescribed, TypeBody.undescribed, TypeDef.enum?, Enumeration.undescribed,
      Function.comp_def]
  | _ => rfl

theorem TypeDef.scalar?_undescribed : t.undescribed.scalar? = t.scalar? := by
  obtain ⟨description, name, body⟩ := t
  cases body <;> rfl

theorem TypeBody.rootFields_undescribed (kind : OperationKind) (name : String) (b : TypeBody) :
    b.undescribed.rootFields roots kind name =
      (b.rootFields roots kind name).map (·.undescribed) := by
  cases b with
  | object fields =>
    simp only [TypeBody.undescribed, TypeBody.rootFields]
    split
    · simp [Function.comp_def]
    · rfl
  | _ => rfl

end TypeDef

theorem Document.rootFields_undescribed (d : Document) (kind : OperationKind) :
    d.undescribed.rootFields kind = (d.rootFields kind).map (·.undescribed) := by
  simp only [rootFields, types_undescribed, extensions_undescribed, roots_undescribed,
    List.flatMap_map, List.map_append, List.map_flatMap]
  simp only [TypeDef.undescribed, TypeExtension.undescribed, TypeBody.rootFields_undescribed]

namespace Collection

variable (c : Collection) (name : String)

theorem model?_undescribed : c.undescribed.model? name = (c.model? name).map (·.undescribed) := by
  simp [model?, undescribed, List.find?_map, Function.comp_def]

theorem isEnum_undescribed : c.undescribed.isEnum name = c.isEnum name := by
  simp [isEnum, undescribed, List.any_map, Function.comp_def]

theorem isScalar_undescribed : c.undescribed.isScalar name = c.isScalar name := rfl

theorem ofTypes_undescribed (d : Document) : ofTypes d.undescribed = (ofTypes d).undescribed := by
  simp only [ofTypes, undescribed, Document.types_undescribed, Document.roots_undescribed,
    Document.rootFields_undescribed, List.filterMap_map, List.map_filterMap, Function.comp_def,
    TypeDef.model?_undescribed, TypeDef.enum?_undescribed, TypeDef.scalar?_undescribed]

theorem extendModel_undescribed (fields : List Field) :
    c.undescribed.extendModel name (fields.map (·.undescribed)) =
      (c.extendModel name fields).map (·.undescribed) := by
  simp only [extendModel, model?_undescribed, Option.isSome_map]
  split
  · simp only [Except.map, undescribed, List.map_map]
    congr 2
    refine List.map_congr_left fun m _ => ?_
    by_cases hname : m.name = name <;> simp [Model.undescribed, hname]
  · rfl

theorem extendEnum_undescribed (values : List String) :
    c.undescribed.extendEnum name values = (c.extendEnum name values).map (·.undescribed) := by
  simp only [extendEnum, isEnum_undescribed]
  split
  · simp only [Except.map, undescribed, List.map_map]
    congr 2
    refine List.map_congr_left fun e _ => ?_
    by_cases hname : e.name = name <;> simp [Enumeration.undescribed, hname]
  · rfl

theorem extend_undescribed (roots : Roots) (e : TypeExtension) :
    extend roots c.undescribed e.undescribed = (extend roots c e).map (·.undescribed) := by
  obtain ⟨name, body⟩ := e
  cases body with
  | object fields =>
    change (if (roots.kindOf name.text).isSome || roots.isSubscription name.text
      then .ok c.undescribed
      else c.undescribed.extendModel name.text ((fields.map (·.undescribed)).map Field.ofDef)) = _
    rw [extend]
    split
    · rfl
    · rw [← extendModel_undescribed]
      simp [Function.comp_def]
  | interface fields =>
    simp only [extend, TypeExtension.undescribed, TypeBody.undescribed]
    rw [← extendModel_undescribed]
    simp [Function.comp_def]
  | enumeration values =>
    simp only [extend, TypeExtension.undescribed, TypeBody.undescribed]
    rw [← extendEnum_undescribed]
    simp [Function.comp_def]
  | _ => rfl

theorem foldlM_extend_undescribed (roots : Roots) (es : List TypeExtension) :
    (es.map (·.undescribed)).foldlM (extend roots) c.undescribed =
      (es.foldlM (extend roots) c).map (·.undescribed) := by
  induction es generalizing c with
  | nil => rfl
  | cons e es ih =>
    rw [List.map_cons, List.foldlM_cons, List.foldlM_cons, extend_undescribed]
    cases extend roots c e with
    | error e => rfl
    | ok c => exact ih c

/-- **Collecting passes descriptions over.** It gives the same collection up to its descriptions, or
fails with the same error. -/
theorem ofDocument_undescribed (d : Document) :
    ofDocument d.undescribed = (ofDocument d).map (·.undescribed) := by
  have hnames : d.undescribed.types.map (·.name.text) = d.types.map (·.name.text) := by
    rw [Document.types_undescribed, List.map_map]
    rfl
  rw [ofDocument, ofDocument, hnames]
  cases firstRepeated [] (d.types.map (·.name.text)) with
  | some name => rfl
  | none =>
    simp only [Document.extensions_undescribed, Document.roots_undescribed, ofTypes_undescribed,
      foldlM_extend_undescribed]

end Collection
end SchemaSdk.Schema
