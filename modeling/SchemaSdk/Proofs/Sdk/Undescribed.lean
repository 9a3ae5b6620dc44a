import SchemaSdk.Proofs.Schema.Undescribed
import SchemaSdk.Schema.Order
import SchemaSdk.Sdk.Method
import SchemaSdk.Sdk.Request
import SchemaSdk.Sdk.RustType

/-!
# What is generated without descriptions

The order of the models, the names of the methods, the types of the generated code and the request
documents are the same with and without descriptions.
-/
namespace SchemaSdk.Schema

/-! ## The order of the models -/

@[simp] theorem Field.isNamed_undescribed (f : Field) : f.undescribed.isNamed = f.isNamed := rfl

theorem Model.dependencies_undescribed (m : Model) :
    m.undescribed.dependencies = m.dependencies := by
  simp [dependencies, List.filter_map, Function.comp_def]

namespace Collection

variable (c : Collection)

theorem indexOf?_undescribed : c.undescribed.indexOf? = c.indexOf? := by
  funext name
  simp [indexOf?, undescribed, List.findIdx?_map, Function.comp_def]

theorem dependencyGraph_undescribed : c.undescribed.dependencyGraph = c.dependencyGraph := by
  simp only [dependencyGraph, indexOf?_undescribed]
  simp [undescribed, List.zipIdx_map, List.flatMap_map, Model.dependencies_undescribed]

theorem modelsAt_undescribed (places : List Nat) :
    c.undescribed.modelsAt places = (c.modelsAt places).map (·.undescribed) := by
  simp [modelsAt, undescribed, List.map_filterMap]

/-- The models come in the same order, or the error names the same cycle. -/
theorem topologicalOrder_undescribed :
    c.undescribed.topologicalOrder = c.topologicalOrder.map (List.map (·.undescribed)) := by
  simp only [topologicalOrder, dependencyGraph_undescribed, modelsAt_undescribed]
  split
  · simp [Except.map, Function.comp_def]
  · rfl

end Collection

/-! ## Operations -/

/-- An operation without its descriptions. -/
def Operation.undescribed (o : Operation) : Operation := ⟨o.toRootField.undescribed, o.kind⟩

section Operation

variable (o : Operation)

@[simp] theorem Operation.field_undescribed : o.undescribed.field = o.field.undescribed := rfl

@[simp] theorem Operation.arguments_undescribed :
    o.undescribed.arguments = o.arguments.map (·.undescribed) := rfl

@[simp] theorem Operation.kind_undescribed : o.undescribed.kind = o.kind := rfl

@[simp] theorem Operation.constant_undescribed : o.undescribed.constant = o.constant := rfl

end Operation

@[simp] theorem Field.typeName_undescribed (f : Field) : f.undescribed.typeName = f.typeName := rfl

@[simp] theorem Field.sdlType_undescribed (f : Field) : f.undescribed.sdlType = f.sdlType := rfl

theorem Operation.methods_undescribed (taken : List String) (os : List Operation) :
    methods taken (os.map (·.undescribed)) = methods taken os := by
  induction os generalizing taken with
  | nil => rfl
  | cons o os ih =>
    rw [List.map_cons, methods, methods, ih]
    rfl

namespace Collection

variable (c : Collection)

theorem operations_undescribed :
    c.undescribed.operations = c.operations.map (·.undescribed) := by
  simp [operations, undescribed, Operation.undescribed, Function.comp_def]

theorem rustTypeOf_undescribed (f : Field) :
    c.undescribed.rustTypeOf f.undescribed = c.rustTypeOf f := by
  simp only [rustTypeOf, declares, model?_undescribed, Option.isSome_map, isEnum_undescribed,
    isScalar_undescribed]
  rfl

theorem selectionOf_undescribed (f : Field) :
    c.undescribed.selectionOf f.undescribed = c.selectionOf f := by
  simp only [selectionOf, Field.isNamed_undescribed, Field.base_undescribed, isEnum_undescribed,
    isScalar_undescribed, model?_undescribed]
  cases c.model? f.base <;> rfl

theorem fragmentOf_undescribed (m : Model) :
    c.undescribed.fragmentOf m.undescribed = c.fragmentOf m := by
  simp [fragmentOf, Function.comp_def, selectionOf_undescribed]

theorem references_undescribed (m : Model) : references m.undescribed = references m := by
  simp [references, List.filter_map, Function.comp_def]

theorem visit_undescribed (seen waiting : List String) :
    c.undescribed.visit seen waiting = (c.visit seen waiting).map (·.undescribed) := by
  fun_induction c.visit seen waiting with
  | case1 => simp [visit]
  | case2 seen name waiting hnone ih =>
    rw [visit]
    split
    · exact ih
    · next hsome => simp [model?_undescribed, hnone] at hsome
  | case3 seen name waiting m hsome hseen ih =>
    rw [visit]
    split
    · exact ih
    · rw [dif_pos hseen, ih]
  | case4 seen name waiting m hsome hseen ih =>
    rw [visit]
    split
    · next hnone => simp [model?_undescribed, hsome] at hnone
    · next m' hsome' =>
      rw [model?_undescribed, hsome, Option.map_some, Option.some.injEq] at hsome'
      subst hsome'
      rw [dif_neg hseen, references_undescribed, ih, List.map_cons]

/-- The document is the same. -/
theorem requestFor_undescribed (o : Operation) :
    c.undescribed.requestFor o.undescribed = c.requestFor o := by
  simp [requestFor, fragmentModels, selectionOf_undescribed, visit_undescribed,
    fragmentOf_undescribed, Function.comp_def]

end Collection

end SchemaSdk.Schema
