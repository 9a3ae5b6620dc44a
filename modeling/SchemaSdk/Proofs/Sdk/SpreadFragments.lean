import SchemaSdk.Proofs.Order.Topological
import SchemaSdk.Proofs.Sdk.DepthFirst
import SchemaSdk.Proofs.Sdk.RequestText

/-!
# The fragments that a request needs

A document may define only fragments that it also spreads. The fragments of a request are those of
the models that the type of its root field leads to, by the name that the type has in the generated
code. For a type that the schema has to define this is the name by which it is selected, so each
fragment is spread: the first one by the root field, another one by a fragment before it. A built-in
scalar is not selected from at all, but a model may be called like its primitive type; the fragment
of that model is then defined and never spread.
-/
namespace SchemaSdk.Schema

variable {c : Collection}

namespace Collection

/-! ## Paths of dependencies -/

theorem dependsOn_of_refersTo {b a : Model} (hb : b ∈ c.models) (h : c.RefersTo b a) :
    c.DependsOn b a := by
  obtain ⟨f, hf, hnamed, ha⟩ := h
  rw [typeName_of_isNamed hnamed] at ha
  obtain ⟨hmem, hname⟩ := mem_of_model? ha
  exact ⟨hb, hmem, f, hf, hnamed, hname.symm⟩

/-- A path that one more reference ends is a path of dependencies. -/
theorem transGen_dependsOn {a m b : Model} (ha : a ∈ c.models)
    (hpath : Relation.ReflTransGen c.RefersTo a m) (hlast : c.RefersTo m b) :
    Relation.TransGen c.DependsOn a b := by
  induction hpath generalizing b with
  | refl => exact .single (dependsOn_of_refersTo ha hlast)
  | tail _ hrefers ih =>
    exact .tail (ih hrefers) (dependsOn_of_refersTo (mem_models_of_refersTo hrefers) hlast)

/-! ## What is spread -/

/-- A request spreads the fragment of a model if the root field is selected through it, or if a
model of the request refers to it. -/
theorem mem_spreads_iff (h : c.WellFormed) {o : Operation} {name : String} :
    name ∈ (c.requestFor o).spreads ↔
      ∃ m, m.name = name ∧ (o.field.isNamed = true ∧ c.model? o.field.base = some m ∨
        ∃ b ∈ c.fragmentModels o.field, c.RefersTo b m) := by
  have hselected : ∀ f : Field, name ∈ ((c.selectionOf f).bind (·.model?)).toList ↔
      ∃ m, m.name = name ∧ f.isNamed = true ∧ c.model? f.base = some m := by
    intro f
    simp only [Option.mem_toList, Option.bind_eq_some_iff, Selection.model?_eq_some_iff]
    constructor
    · rintro ⟨_, hselection, rfl⟩
      obtain ⟨hnamed, rfl, m, hm⟩ := selectionOf_eq_fragment hselection
      exact ⟨m, (mem_of_model? hm).2, hnamed, hm⟩
    · rintro ⟨m, rfl, hnamed, hm⟩
      exact ⟨_, selectionOf_of_model? h hnamed hm, rfl⟩
  simp only [Request.spreads, requestFor, fragmentOf, Fragment.spreads, SelectedField.spreads,
    List.flatMap_map, List.mem_append, List.mem_flatMap, hselected, RefersTo]
  constructor
  · rintro (⟨m, hname, hroot⟩ | ⟨b, hb, f, hf, m, hname, hnamed, hm⟩)
    · exact ⟨m, hname, .inl hroot⟩
    · rw [← typeName_of_isNamed hnamed] at hm
      exact ⟨m, hname, .inr ⟨b, hb, f, hf, hnamed, hm⟩⟩
  · rintro ⟨m, hname, hroot | ⟨b, hb, f, hf, hnamed, hm⟩⟩
    · exact .inl ⟨m, hname, hroot⟩
    · rw [typeName_of_isNamed hnamed] at hm
      exact .inr ⟨b, hb, f, hf, m, hname, hnamed, hm⟩

/-- Only the model that the search starts with may be one that no field of the request selects. -/
theorem spread_of_mem_fragmentModels (h : c.WellFormed) {o : Operation}
    (hroot : o.field.isNamed = true ∨ c.model? o.field.typeName = none) {m : Model}
    (hm : m ∈ c.fragmentModels o.field) : m.name ∈ (c.requestFor o).spreads := by
  obtain ⟨start, hstart, hpath⟩ := mem_fragmentModels_iff.mp hm
  refine (mem_spreads_iff h).mpr ⟨m, rfl, ?_⟩
  rcases Relation.ReflTransGen.cases_tail hpath with rfl | ⟨b, hbefore, hrefers⟩
  · have hnamed : o.field.isNamed = true := by
      refine hroot.resolve_right fun hnone => ?_
      rw [hnone] at hstart
      cases hstart
    rw [typeName_of_isNamed hnamed] at hstart
    exact .inl ⟨hnamed, hstart⟩
  · exact .inr ⟨b, mem_fragmentModels_iff.mpr ⟨start, hstart, hbefore⟩, hrefers⟩

/-- Without cycles, nothing leads back to a model that the search starts with. -/
theorem not_spread_of_primitive (h : c.WellFormed)
    (hacyclic : ∀ m, ¬ Relation.TransGen c.DependsOn m m) {o : Operation}
    (hprimitive : o.field.isNamed = false) {start : Model}
    (hstart : c.model? o.field.typeName = some start) :
    start ∈ c.fragmentModels o.field ∧ start.name ∉ (c.requestFor o).spreads := by
  refine ⟨mem_fragmentModels_iff.mpr ⟨start, hstart, .refl⟩, fun hspread => ?_⟩
  obtain ⟨m, hname, ⟨hnamed, _⟩ | ⟨b, hb, hrefers⟩⟩ := (mem_spreads_iff h).mp hspread
  · rw [hprimitive] at hnamed
    cases hnamed
  · obtain ⟨first, hfirst, hpath⟩ := mem_fragmentModels_iff.mp hb
    obtain rfl := Option.some.inj (hstart.symm.trans hfirst)
    have hsame : m = start := by
      obtain ⟨f, _, _, hm⟩ := hrefers
      rw [← (mem_of_model? hm).2, hname, (mem_of_model? hstart).2, hstart] at hm
      exact (Option.some.inj hm).symm
    rw [hsame] at hrefers
    exact hacyclic start (transGen_dependsOn (mem_of_model? hstart).1 hpath hrefers)

/-! ## What a document defines and spreads -/

section Document

variable (h : c.WellFormed) {o : Operation} (ho : o ∈ c.operations)

include h ho

theorem definedNames_requestFor : definedNames (c.requestFor o).text =
    (c.fragmentModels o.field).map fun m => fragmentName m.name := by
  rw [Request.definedNames_text (printable_requestFor h ho)]
  simp [requestFor, fragmentOf]

theorem fragmentName_mem_spreadNames_iff {name : String} :
    fragmentName name ∈ spreadNames (c.requestFor o).text ↔
      name ∈ (c.requestFor o).spreads := by
  rw [Request.spreadNames_text (printable_requestFor h ho),
    List.mem_map_of_injective fragmentName_injective]

end Document

/-- **The fragments of a document are spread in it** exactly if the root field is of a type that the
schema has to define, or of a built-in scalar such that no model is called like its primitive type.
In the latter case the document defines none. -/
theorem spread_iff_of_parse {sdl : String} (h : parse sdl = .ok c) {order : List Model}
    (horder : c.topologicalOrder = .ok order) {o : Operation} (ho : o ∈ c.operations) :
    ((∀ name ∈ definedNames (c.requestFor o).text, name ∈ spreadNames (c.requestFor o).text) ↔
        o.field.isNamed = true ∨ c.model? o.field.typeName = none) ∧
      (o.field.isNamed = false →
        (definedNames (c.requestFor o).text = [] ↔ c.model? o.field.typeName = none)) := by
  have hwell := wellFormed_of_parse h
  have hacyclic := (exists_topologicalOrder_iff hwell.nodup_modelNames).mp ⟨order, horder⟩
  rw [definedNames_requestFor hwell ho]
  refine ⟨⟨?_, ?_⟩, fun _ => ?_⟩
  · intro hspread
    by_contra hroot
    obtain ⟨hprimitive, hmodel⟩ := not_or.mp hroot
    obtain ⟨start, hstart⟩ := Option.ne_none_iff_exists'.mp hmodel
    obtain ⟨hmem, hnot⟩ :=
      not_spread_of_primitive hwell hacyclic (Bool.eq_false_iff.mpr hprimitive) hstart
    have hname := hspread _ (List.mem_map_of_mem hmem)
    exact hnot ((fragmentName_mem_spreadNames_iff hwell ho).mp hname)
  · intro hroot name hname
    obtain ⟨m, hm, rfl⟩ := List.mem_map.mp hname
    exact (fragmentName_mem_spreadNames_iff hwell ho).mpr
      (spread_of_mem_fragmentModels hwell hroot hm)
  · rw [List.map_eq_nil_iff, fragmentModels_eq_nil_iff]

/-- A model that is called like the primitive type of `Int` is spread where it is the type of a
field. -/
theorem spread_iff_of_parse_i32 :
    ∃ c order o, parse "type Query { a: A } type A { n: Int i: i32 } type i32 { x: Int }" = .ok c ∧
      c.topologicalOrder = .ok order ∧ o ∈ c.operations ∧
      "i32Fields" ∈ definedNames (c.requestFor o).text ∧
      ∀ name ∈ definedNames (c.requestFor o).text, name ∈ spreadNames (c.requestFor o).text := by
  have hread : (parse "type Query { a: A } type A { n: Int i: i32 } type i32 { x: Int }"
      ).toOption.any (fun c => c.topologicalOrder.toOption.any fun _ =>
        decide (∃ o ∈ c.operations, ∃ a ∈ c.models, ∃ m ∈ c.models,
          o.field.isNamed = true ∧ c.model? o.field.typeName = some a ∧ m.name = "i32" ∧
            ∃ f ∈ a.fields, f.isNamed = true ∧ c.model? f.typeName = some m)) = true := by
    decide +kernel
  obtain ⟨c, h, hc⟩ := exists_eq_ok_of_any hread
  obtain ⟨order, horder, hc⟩ := exists_eq_ok_of_any hc
  obtain ⟨o, ho, a, _, m, _, hnamed, ha, hname, hrefers⟩ := of_decide_eq_true hc
  refine ⟨c, order, o, h, horder, ho, ?_, (spread_iff_of_parse h horder ho).1.mpr (.inl hnamed)⟩
  rw [definedNames_requestFor (wellFormed_of_parse h) ho, List.mem_map]
  exact ⟨m, mem_fragmentModels_iff.mpr ⟨a, ha, .single hrefers⟩, by rw [hname]; rfl⟩

/-- Where a model is called like the primitive type of `Int`, an operation that returns an `Int`
defines the fragment of the model and does not spread it. -/
theorem unspread_fragment_of_parse :
    ∃ c order o, parse "type Query { count: Int! } type i32 { x: Int }" = .ok c ∧
      c.topologicalOrder = .ok order ∧ o ∈ c.operations ∧ o.field.base = "Int" ∧
      "i32Fields" ∈ definedNames (c.requestFor o).text ∧
      "i32Fields" ∉ spreadNames (c.requestFor o).text := by
  have hread : (parse "type Query { count: Int! } type i32 { x: Int }").toOption.any (fun c =>
      c.topologicalOrder.toOption.any fun _ => decide (∃ o ∈ c.operations, ∃ m ∈ c.models,
        o.field.base = "Int" ∧ c.model? o.field.typeName = some m ∧ m.name = "i32")) = true := by
    decide +kernel
  obtain ⟨c, h, hc⟩ := exists_eq_ok_of_any hread
  obtain ⟨order, horder, hc⟩ := exists_eq_ok_of_any hc
  obtain ⟨o, ho, m, _, hbase, hm, hname⟩ := of_decide_eq_true hc
  have hwell := wellFormed_of_parse h
  have hacyclic := (exists_topologicalOrder_iff hwell.nodup_modelNames).mp ⟨order, horder⟩
  have hprimitive : o.field.isNamed = false := by
    rw [Field.isNamed, hbase]
    decide
  obtain ⟨hmem, hnot⟩ := not_spread_of_primitive hwell hacyclic hprimitive hm
  rw [← fragmentName_mem_spreadNames_iff hwell ho, hname] at hnot
  refine ⟨c, order, o, h, horder, ho, hbase, ?_, hnot⟩
  rw [definedNames_requestFor hwell ho, List.mem_map]
  exact ⟨m, hmem, by rw [hname]; rfl⟩

end Collection

end SchemaSdk.Schema
