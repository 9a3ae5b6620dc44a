import SchemaSdk.Proofs.Schema.Merged
import SchemaSdk.Proofs.Text.Words

/-!
# What holds of every parsed collection

No two types share a name, and every name that is kept is one of the schema language.
-/
namespace SchemaSdk.Schema

open SchemaSdk.Text

/-- The text is a name of the schema language. -/
def IsName (s : String) : Prop := spellsName s.toList = true

theorem IsName.uses {s : String} (h : IsName s) {p : Char → Bool}
    (hp : ∀ c, isNamePart c = true → p c = true) : Uses p s :=
  uses_iff.mpr fun c hc => hp c (isNamePart_of_spellsName h c hc)

theorem IsName.notMem {s : String} (h : IsName s) {c : Char} (hc : isNamePart c = false) :
    c ∉ s.toList :=
  (h.uses fun _ hd => hd).notMem hc

/-- The name and the base type of a field are names. -/
structure Field.Spelled (f : Field) : Prop where
  name : IsName f.name
  base : IsName f.base

theorem Field.spelled_ofDef (d : FieldDef) : (Field.ofDef d).Spelled :=
  ⟨d.name.spells, d.type.base.spells⟩

theorem Field.spelled_ofInput (d : InputDef) : (Field.ofInput d).Spelled :=
  ⟨d.name.spells, d.type.base.spells⟩

/-- A root field, its result and its arguments have names. -/
structure RootField.Spelled (r : RootField) : Prop where
  field : r.field.Spelled
  arguments : ∀ a ∈ r.arguments, a.Spelled

theorem RootField.spelled_ofDef (d : FieldDef) : (RootField.ofDef d).Spelled where
  field := Field.spelled_ofDef d
  arguments a ha := by
    obtain ⟨i, _, rfl⟩ := List.mem_map.mp ha
    exact Field.spelled_ofInput i

/-- What a schema text defines is named, and no two types have one name. -/
structure Collection.WellFormed (c : Collection) : Prop where
  names_nodup : (c.scalars ++ c.enums.map (·.name) ++ c.models.map (·.name)).Nodup
  scalars_spelled : ∀ s ∈ c.scalars, IsName s
  enums_spelled : ∀ e ∈ c.enums, IsName e.name ∧ ∀ v ∈ e.values, IsName v
  models_spelled : ∀ m ∈ c.models, IsName m.name ∧ ∀ f ∈ m.fields, f.Spelled
  operations_spelled : ∀ o ∈ c.operations, o.toRootField.Spelled

namespace Document

variable {d : Document} {es : List TypeExtension}

/-- Definitions picked by properties that exclude each other have different names. -/
theorem nodup_names_merged (h : d.typeNames.Nodup) :
    ((d.merged es).scalars ++ (d.merged es).enums.map (·.name) ++
      (d.merged es).models.map (·.name)).Nodup := by
  have hnames : (d.merged es).scalars ++ (d.merged es).enums.map (·.name) ++
      (d.merged es).models.map (·.name) =
        (d.types.filter (·.body.isScalar) ++ d.enumDefs ++ d.modelDefs).map (·.name.text) := by
    simp [merged, Function.comp_def]
  have hdefs : d.types.Nodup := List.Nodup.of_map _ h
  have hkinds : ∀ t : TypeDef, (t.body.isScalar = true → t.body.isEnumeration = false) ∧
      (t.body.isScalar = true ∨ t.body.isEnumeration = true →
        d.concernsModel t.name t.body = false) := by
    rintro ⟨_, _, body⟩
    cases body <;> simp [TypeBody.isScalar, TypeBody.isEnumeration, concernsModel]
  rw [hnames]
  refine List.Nodup.map_on ?_ ?_
  · intro t ht u hu heq
    refine List.inj_on_of_nodup_map h ?_ ?_ heq
    · simp only [enumDefs, modelDefs, List.mem_append, List.mem_filter] at ht
      tauto
    · simp only [enumDefs, modelDefs, List.mem_append, List.mem_filter] at hu
      tauto
  · rw [List.nodup_append', List.nodup_append']
    refine ⟨⟨hdefs.filter _, hdefs.filter _, ?_⟩, hdefs.filter _, ?_⟩
    · intro t ht hu
      have hscalar := (List.mem_filter.mp ht).2
      have henum := (List.mem_filter.mp hu).2
      rw [(hkinds t).1 hscalar] at henum
      cases henum
    · intro t ht hu
      have hmodel := (List.mem_filter.mp hu).2
      have hother : t.body.isScalar = true ∨ t.body.isEnumeration = true := by
        simp only [enumDefs, List.mem_append, List.mem_filter] at ht
        tauto
      rw [(hkinds t).2 hother] at hmodel
      cases hmodel

theorem wellFormed_merged (h : d.typeNames.Nodup) : (d.merged es).WellFormed where
  names_nodup := nodup_names_merged h
  scalars_spelled s hs := by
    obtain ⟨t, _, rfl⟩ := List.mem_map.mp hs
    exact t.name.spells
  enums_spelled e he := by
    obtain ⟨t, _, rfl⟩ := List.mem_map.mp he
    refine ⟨t.name.spells, fun v hv => ?_⟩
    obtain ⟨d, _, rfl⟩ := List.mem_map.mp hv
    exact d.name.spells
  models_spelled m hm := by
    obtain ⟨t, _, rfl⟩ := List.mem_map.mp hm
    refine ⟨t.name.spells, fun f hf => ?_⟩
    obtain ⟨fd, _, rfl⟩ := List.mem_map.mp hf
    exact Field.spelled_ofDef fd
  operations_spelled o ho := by
    simp only [Collection.operations, merged, List.map_map, List.mem_append, List.mem_map,
      Function.comp_apply] at ho
    rcases ho with ⟨fd, _, rfl⟩ | ⟨fd, _, rfl⟩
    · exact RootField.spelled_ofDef fd
    · exact RootField.spelled_ofDef fd

end Document

namespace Collection

variable {sdl : String} {c : Collection}

theorem wellFormed_of_parse (h : parse sdl = .ok c) : c.WellFormed := by
  obtain ⟨d, hnodup, rfl⟩ := exists_document_of_parse h
  exact Document.wellFormed_merged hnodup

theorem WellFormed.nodup_modelNames (h : c.WellFormed) : (c.models.map (·.name)).Nodup :=
  (List.nodup_append'.mp h.names_nodup).2.1

/-- A model has its name to itself: no enumeration and no scalar shares it. -/
theorem WellFormed.isEnum_or_isScalar_eq_false (h : c.WellFormed) {m : Model} (hm : m ∈ c.models) :
    (c.isEnum m.name || c.isScalar m.name) = false := by
  have hdisjoint := (List.nodup_append'.mp h.names_nodup).2.2
  have hname : m.name ∈ c.models.map (·.name) := List.mem_map_of_mem hm
  rw [Bool.eq_false_iff, ne_eq, Bool.or_eq_true, not_or]
  constructor
  · intro henum
    obtain ⟨e, he, heq⟩ := List.any_eq_true.mp henum
    refine hdisjoint (List.mem_append_right _ ?_) hname
    exact List.mem_map.mpr ⟨e, he, eq_of_beq heq⟩
  · intro hscalar
    exact hdisjoint (List.mem_append_left _ (List.contains_iff_mem.mp hscalar)) hname

end Collection
end SchemaSdk.Schema
