import Mathlib.Data.List.Nodup
import SchemaSdk.Proofs.Sdk.Fragments
import SchemaSdk.Sdk.Declaration

/-!
# Fields as they are selected and decoded

What a document selects of a field and the type that the answer is decoded to are found by tests of
their own. They agree because a type name stands for one thing: a built-in scalar, or what the
schema defines under the name, or nothing that the generated code declares. A schema cannot define
an enumeration, a scalar and a model of one name, so what a name stands for settles both.
-/
namespace SchemaSdk.Schema

variable {c : Collection} {name : String} {f : Field}

/-- What a type name can stand for. -/
inductive TypeMeaning where
  | primitive (type : String)
  | enumeration (e : Enumeration)
  | scalar (name : String)
  | model (m : Model)
  | undeclared
  deriving DecidableEq

namespace TypeMeaning

/-- What is selected of a field of the type, as it is written. -/
def selection : TypeMeaning → Option String
  | primitive _ | enumeration _ | scalar _ => none
  | model m => some ("\x7b ..." ++ m.name ++ "Fields \x7d")
  | undeclared => some "\x7b __typename \x7d"

/-- The type that a field of the type is decoded to, but for options and lists: a primitive, the
identifier that the generated code declares, or a JSON value. -/
def rustType (c : Collection) : TypeMeaning → String
  | primitive type => type
  | enumeration e => (Sdk.Declaration.ofEnum e).ident
  | scalar name => (Sdk.Declaration.ofScalar name).ident
  | model m => (Sdk.Declaration.ofModel c m).ident
  | undeclared => "serde_json::Value"

end TypeMeaning

/-- A type name stands for a built-in scalar if it is the name of one. Otherwise it stands for what
the schema defines under the name, or for something undeclared. -/
inductive Collection.StandsFor (c : Collection) (name : String) : TypeMeaning → Prop where
  | primitive {type : String} (h : primitive? name = some type) : StandsFor c name (.primitive type)
  | enumeration {e : Enumeration} (hbuiltin : name ∉ builtinScalars) (he : e ∈ c.enums)
    (hname : e.name = name) : StandsFor c name (.enumeration e)
  | scalar (hbuiltin : name ∉ builtinScalars) (hname : name ∈ c.scalars) :
    StandsFor c name (.scalar name)
  | model {m : Model} (hbuiltin : name ∉ builtinScalars) (hm : m ∈ c.models)
    (hname : m.name = name) : StandsFor c name (.model m)
  | undeclared (hbuiltin : name ∉ builtinScalars) (henums : ∀ e ∈ c.enums, e.name ≠ name)
    (hscalars : name ∉ c.scalars) (hmodels : ∀ m ∈ c.models, m.name ≠ name) :
    StandsFor c name .undeclared

/-! ## One meaning for a name -/

theorem primitive?_eq_none_iff : primitive? name = none ↔ name ∉ builtinScalars := by
  unfold primitive?
  split <;> simp_all [builtinScalars]

theorem isNamed_iff : f.isNamed = true ↔ f.base ∉ builtinScalars := by
  simp [Field.isNamed]

theorem isNamed_of_primitive? {type : String} (h : primitive? f.base = some type) :
    f.isNamed = false := by
  rw [Bool.eq_false_iff, ne_eq, isNamed_iff, ← primitive?_eq_none_iff, h]
  exact nofun

namespace Collection

theorem isEnum_iff : c.isEnum name = true ↔ ∃ e ∈ c.enums, e.name = name := by
  simp [isEnum]

theorem isEnum_eq_false_iff : c.isEnum name = false ↔ ∀ e ∈ c.enums, e.name ≠ name := by
  simp [isEnum]

theorem isScalar_iff : c.isScalar name = true ↔ name ∈ c.scalars := List.contains_iff_mem

theorem isScalar_eq_false_iff : c.isScalar name = false ↔ name ∉ c.scalars := by
  simp [isScalar]

theorem model?_eq_none_iff : c.model? name = none ↔ ∀ m ∈ c.models, m.name ≠ name := by
  simp [model?]

theorem WellFormed.model?_name (h : c.WellFormed) {m : Model} (hm : m ∈ c.models) :
    c.model? m.name = some m := by
  cases hfound : c.model? m.name with
  | none => exact absurd rfl (model?_eq_none_iff.mp hfound m hm)
  | some a =>
    obtain ⟨ha, hname⟩ := mem_of_model? hfound
    rw [List.inj_on_of_nodup_map h.nodup_modelNames ha hm hname]

theorem exists_standsFor (c : Collection) (name : String) : ∃ t, c.StandsFor name t := by
  cases hprimitive : primitive? name with
  | some type => exact ⟨_, .primitive hprimitive⟩
  | none =>
    have hbuiltin := primitive?_eq_none_iff.mp hprimitive
    by_cases henum : ∃ e ∈ c.enums, e.name = name
    · obtain ⟨e, he, hname⟩ := henum
      exact ⟨_, .enumeration hbuiltin he hname⟩
    by_cases hscalar : name ∈ c.scalars
    · exact ⟨_, .scalar hbuiltin hscalar⟩
    by_cases hmodel : ∃ m ∈ c.models, m.name = name
    · obtain ⟨m, hm, hname⟩ := hmodel
      exact ⟨_, .model hbuiltin hm hname⟩
    push Not at henum hmodel
    exact ⟨_, .undeclared hbuiltin henum hscalar hmodel⟩

/-- A name stands for one thing: what the schema defines under it is of one kind only. -/
theorem StandsFor.unique (h : c.WellFormed) {t u : TypeMeaning} (ht : c.StandsFor name t)
    (hu : c.StandsFor name u) : t = u := by
  obtain ⟨hleaves, _, hmodels⟩ := List.nodup_append'.mp h.names_nodup
  obtain ⟨_, henums, hscalars⟩ := List.nodup_append'.mp hleaves
  have henum_inj : ∀ e ∈ c.enums, ∀ e' ∈ c.enums, e.name = e'.name → e = e' :=
    fun _ he _ he' => List.inj_on_of_nodup_map henums he he'
  have hmodel_inj : ∀ m ∈ c.models, ∀ m' ∈ c.models, m.name = m'.name → m = m' :=
    fun _ hm _ hm' => List.inj_on_of_nodup_map h.nodup_modelNames hm hm'
  have henum_scalar : ∀ e ∈ c.enums, e.name ∉ c.scalars :=
    fun e he hs => hscalars hs (List.mem_map_of_mem he)
  have henum_model : ∀ e ∈ c.enums, ∀ m ∈ c.models, e.name ≠ m.name := by
    intro e he m hm heq
    refine hmodels (List.mem_append_right _ (List.mem_map_of_mem he)) ?_
    exact heq ▸ List.mem_map_of_mem hm
  have hmodel_scalar : ∀ m ∈ c.models, m.name ∉ c.scalars :=
    fun m hm hs => hmodels (List.mem_append_left _ hs) (List.mem_map_of_mem hm)
  have hprimitive : primitive? name = none ↔ name ∉ builtinScalars := primitive?_eq_none_iff
  cases ht <;> cases hu <;> grind

/-! ## What a meaning settles -/

theorem selection_of_standsFor (h : c.WellFormed) {t : TypeMeaning} (ht : c.StandsFor f.base t) :
    (c.selectionOf f).map (·.text) = t.selection := by
  cases ht with
  | primitive hprimitive =>
    have hnamed := isNamed_of_primitive? hprimitive
    simp [selectionOf, hnamed, TypeMeaning.selection]
  | enumeration _ he hname =>
    have henum := isEnum_iff.mpr ⟨_, he, hname⟩
    simp [selectionOf, henum, TypeMeaning.selection]
  | scalar _ hname =>
    have hscalar := isScalar_iff.mpr hname
    simp [selectionOf, hscalar, TypeMeaning.selection]
  | @model m hbuiltin hm hname =>
    have hfound : c.model? f.base = some m := hname ▸ h.model?_name hm
    rw [selectionOf_of_model? h (isNamed_iff.mpr hbuiltin) hfound]
    simp [Selection.text, braced, fragmentName, TypeMeaning.selection, ← String.toList_inj]
  | undeclared hbuiltin henums hscalars hmodels =>
    simp only [selectionOf, isNamed_iff.mpr hbuiltin, isEnum_eq_false_iff.mpr henums,
      isScalar_eq_false_iff.mpr hscalars, model?_eq_none_iff.mpr hmodels]
    rfl

theorem rustTypeOf_of_declares (hbuiltin : f.base ∉ builtinScalars)
    (hdeclared : c.declares f.base = true) :
    c.rustTypeOf f = f.wrap (Identifier.ofType f.base) := by
  simp [rustTypeOf, Field.rustType, isNamed_iff.mpr hbuiltin, hdeclared]

theorem rustTypeOf_of_standsFor (h : c.WellFormed) {t : TypeMeaning} (ht : c.StandsFor f.base t) :
    c.rustTypeOf f = f.wrap (t.rustType c) := by
  cases ht with
  | primitive hprimitive =>
    have hnamed := isNamed_of_primitive? hprimitive
    simp [rustTypeOf, Field.rustType, hnamed, Field.typeName, hprimitive, TypeMeaning.rustType]
  | enumeration hbuiltin he hname =>
    have henum := isEnum_iff.mpr ⟨_, he, hname⟩
    rw [rustTypeOf_of_declares hbuiltin (by simp [declares, henum]), ← hname]
    simp only [TypeMeaning.rustType, Sdk.Declaration.ofEnum, Sdk.Declaration.ident]
  | scalar hbuiltin hname =>
    have hscalar := isScalar_iff.mpr hname
    rw [rustTypeOf_of_declares hbuiltin (by simp [declares, hscalar])]
    simp only [TypeMeaning.rustType, Sdk.Declaration.ofScalar, Sdk.Declaration.ident]
  | model hbuiltin hm hname =>
    have hfound := h.model?_name hm
    rw [hname] at hfound
    rw [rustTypeOf_of_declares hbuiltin (by simp [declares, hfound]), ← hname]
    simp only [TypeMeaning.rustType, Sdk.Declaration.ofModel, Sdk.Declaration.ident]
  | undeclared hbuiltin henums hscalars hmodels =>
    have hdeclared : c.declares f.base = false := by
      rw [declares, model?_eq_none_iff.mpr hmodels, isEnum_eq_false_iff.mpr henums,
        isScalar_eq_false_iff.mpr hscalars]
      rfl
    simp [rustTypeOf, isNamed_iff.mpr hbuiltin, hdeclared, TypeMeaning.rustType, jsonValue]

/-- **A field is decoded as what it is selected as.** In a parsed schema the base type of a field
stands for one thing. A built-in scalar, an enumeration or a scalar of the schema is not selected
from, and decoded to its primitive type or to the identifier declared for it. A model is selected
through its fragment and decoded to its struct. Of anything else only the name of the type is
selected, and the answer is decoded to a JSON value. -/
theorem selection_and_type_of_parse {sdl : String} (h : parse sdl = .ok c) (f : Field) :
    ∃ t, c.StandsFor f.base t ∧ (∀ u, c.StandsFor f.base u → u = t) ∧
      (c.selectionOf f).map (·.text) = t.selection ∧ c.rustTypeOf f = f.wrap (t.rustType c) := by
  have hwell := wellFormed_of_parse h
  obtain ⟨t, ht⟩ := c.exists_standsFor f.base
  exact ⟨t, ht, fun _ hu => hu.unique hwell ht, selection_of_standsFor hwell ht,
    rustTypeOf_of_standsFor hwell ht⟩

/-- A model that is called like a built-in scalar does not change what the scalar is decoded to, and
a root type that is referred to is no model. -/
theorem selection_and_type_of_parse_lookalikes :
    ∃ c, parse "type Query { id: ID! s: i32 q: [Query!] } type ID { x: Int } scalar i32" = .ok c ∧
      (∀ f : Field, ∃ t, c.StandsFor f.base t ∧ (∀ u, c.StandsFor f.base u → u = t) ∧
        (c.selectionOf f).map (·.text) = t.selection ∧ c.rustTypeOf f = f.wrap (t.rustType c)) ∧
      c.StandsFor "ID" (.primitive "String") ∧ c.StandsFor "i32" (.scalar "i32") ∧
      c.StandsFor "Query" .undeclared := by
  have hread : (parse "type Query { id: ID! s: i32 q: [Query!] } type ID { x: Int } scalar i32"
      ).toOption.any (fun c => decide (c.enums = [] ∧ c.scalars = ["i32"] ∧
        c.models.map (·.name) = ["ID"])) = true := by
    decide
  obtain ⟨c, h, hc⟩ := exists_eq_ok_of_any hread
  obtain ⟨henums, hscalars, hmodels⟩ := of_decide_eq_true hc
  refine ⟨c, h, selection_and_type_of_parse h, .primitive rfl, .scalar (by decide) ?_,
    .undeclared (by decide) ?_ ?_ ?_⟩
  · simp [hscalars]
  · simp [henums]
  · simp [hscalars]
  · intro m hm hname
    have hmem : "Query" ∈ c.models.map (·.name) := hname ▸ List.mem_map_of_mem hm
    rw [hmodels] at hmem
    exact absurd hmem (by decide)

end Collection
end SchemaSdk.Schema
