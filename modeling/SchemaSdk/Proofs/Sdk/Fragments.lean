import Mathlib.Data.List.Nodup
import SchemaSdk.Proofs.Schema.Parsed
import SchemaSdk.Sdk.Request

/-!
# The fragments of a request

The traversal of the models that an operation needs visits each once and leaves out none that a
visited one refers to. So a request has one fragment for every model whose fragment it spreads.
-/
namespace SchemaSdk.Schema

variable {c : Collection}

/-! ## The traversal -/

namespace Collection

theorem visit_cons_of_none {seen waiting : List String} {name : String}
    (h : c.model? name = none) : c.visit seen (name :: waiting) = c.visit seen waiting := by
  rw [visit]
  split
  · rfl
  · rename_i hm
    rw [h] at hm
    cases hm

theorem visit_cons_of_seen {seen waiting : List String} {name : String}
    (h : seen.contains name = true) : c.visit seen (name :: waiting) = c.visit seen waiting := by
  rw [visit]
  split
  · rfl
  · rw [dif_pos h]

theorem visit_cons_of_new {seen waiting : List String} {name : String} {m : Model}
    (hm : c.model? name = some m) (h : ¬ seen.contains name = true) :
    c.visit seen (name :: waiting) = m :: c.visit (name :: seen) (references m ++ waiting) := by
  rw [visit]
  split
  · rename_i hnone
    rw [hm] at hnone
    cases hnone
  · rename_i m' hm'
    obtain rfl := Option.some.inj (hm.symm.trans hm')
    rw [dif_neg h]

/-- What is visited is a model of the collection that was not seen before. -/
theorem model?_of_mem_visit {seen waiting : List String} :
    ∀ m ∈ c.visit seen waiting, c.model? m.name = some m ∧ m.name ∉ seen := by
  fun_induction visit c seen waiting with
  | case1 seen => simp
  | case2 seen name waiting hfound ih => exact ih
  | case3 seen name waiting m hfound hseen ih => exact ih
  | case4 seen name waiting m hfound hnew ih =>
    have hname : m.name = name := (mem_of_model? hfound).2
    refine List.forall_mem_cons.mpr ⟨?_, fun a ha => ?_⟩
    · rw [hname]
      exact ⟨hfound, by simpa using hnew⟩
    · obtain ⟨hmodel, hnot⟩ := ih a ha
      exact ⟨hmodel, fun hmem => hnot (List.mem_cons_of_mem name hmem)⟩

/-- No model is visited twice. -/
theorem nodup_visit {seen waiting : List String} :
    ((c.visit seen waiting).map (·.name)).Nodup := by
  fun_induction visit c seen waiting with
  | case1 seen => simp
  | case2 seen name waiting hfound ih => exact ih
  | case3 seen name waiting m hfound hseen ih => exact ih
  | case4 seen name waiting m hfound hnew ih =>
    rw [List.map_cons, List.nodup_cons]
    refine ⟨fun hmem => ?_, ih⟩
    obtain ⟨a, ha, hname⟩ := List.mem_map.mp hmem
    refine (model?_of_mem_visit a ha).2 ?_
    rw [hname, (mem_of_model? hfound).2]
    exact List.mem_cons_self

/-- What waits is visited unless it was seen before, and so is what a visited model refers to. -/
theorem mem_visit {seen waiting : List String} {name : String} {a : Model}
    (ha : c.model? name = some a)
    (hneeded : name ∈ waiting ∨ ∃ m ∈ c.visit seen waiting, name ∈ references m) :
    name ∈ seen ∨ a ∈ c.visit seen waiting := by
  fun_induction visit c seen waiting with
  | case1 seen => simp at hneeded
  | case2 seen other waiting hfound ih =>
    refine ih (hneeded.imp_left fun hmem => ?_)
    rcases List.mem_cons.mp hmem with rfl | hmem
    · rw [hfound] at ha
      cases ha
    · exact hmem
  | case3 seen other waiting m hfound hseen ih =>
    rcases hneeded with hmem | hneeded
    · rcases List.mem_cons.mp hmem with rfl | hmem
      · exact .inl (by simpa using hseen)
      · exact ih (.inl hmem)
    · exact ih (.inr hneeded)
  | case4 seen other waiting m hfound hnew ih =>
    -- The name is the one visited now, or it still waits for the rest of the traversal.
    by_cases hother : name = other
    · subst hother
      rw [hfound] at ha
      cases ha
      exact .inr List.mem_cons_self
    · have hrest : name ∈ references m ++ waiting ∨
          ∃ b ∈ c.visit (other :: seen) (references m ++ waiting), name ∈ references b := by
        rcases hneeded with hmem | ⟨b, hb, hmem⟩
        · exact .inl (List.mem_append_right _ (List.mem_of_ne_of_mem hother hmem))
        · rcases List.mem_cons.mp hb with rfl | hb
          · exact .inl (List.mem_append_left _ hmem)
          · exact .inr ⟨b, hb, hmem⟩
      rcases ih hrest with hmem | hmem
      · exact .inl (List.mem_of_ne_of_mem hother hmem)
      · exact .inr (List.mem_cons_of_mem m hmem)

end Collection

/-! ## Spreads and definitions -/

/-- The model whose fragment a selection spreads, if it spreads one. -/
def Selection.model? : Selection → Option String
  | fragment m => some m
  | typeName => none

theorem Selection.model?_eq_some_iff {s : Selection} {name : String} :
    s.model? = some name ↔ s = .fragment name := by
  cases s <;> simp [model?]

/-- The model whose fragment a selected field spreads, if it spreads one. -/
def SelectedField.spreads (f : SelectedField) : List String :=
  (f.selection.bind (·.model?)).toList

/-- The models whose fragments the body of a fragment spreads. -/
def Fragment.spreads (f : Fragment) : List String :=
  f.fields.flatMap (·.spreads)

/-- The models whose fragments a request spreads, that of its root field first. -/
def Request.spreads (r : Request) : List String :=
  (r.selection.bind (·.model?)).toList ++ r.fragments.flatMap (·.spreads)

namespace Collection

theorem selectionOf_eq_fragment {f : Field} {name : String}
    (h : c.selectionOf f = some (.fragment name)) :
    f.isNamed = true ∧ f.base = name ∧ ∃ m, c.model? name = some m := by
  unfold selectionOf at h
  split at h
  · cases h
  · rename_i hnamed
    split at h
    · rename_i m hm
      cases h
      rw [(mem_of_model? hm).2]
      refine ⟨?_, rfl, m, hm⟩
      simp only [Bool.or_eq_true, Bool.not_eq_true', not_or, Bool.not_eq_false] at hnamed
      exact hnamed.1.1
    · cases h

/-- A field whose type is a model is selected through the fragment of the model. -/
theorem selectionOf_of_model? (h : c.WellFormed) {f : Field} {m : Model} (hnamed : f.isNamed = true)
    (hm : c.model? f.base = some m) : c.selectionOf f = some (.fragment m.name) := by
  obtain ⟨hmem, hname⟩ := mem_of_model? hm
  have hother := h.isEnum_or_isScalar_eq_false hmem
  rw [hname] at hother
  simp [selectionOf, hnamed, hm, hother]

theorem typeName_of_isNamed {f : Field} (h : f.isNamed = true) : f.typeName = f.base := by
  unfold Field.typeName primitive?
  split <;> simp_all [Field.isNamed, builtinScalars]

theorem mem_references_of_selectionOf {m : Model} {f : Field} (hf : f ∈ m.fields) {name : String}
    (h : c.selectionOf f = some (.fragment name)) : name ∈ references m := by
  obtain ⟨hnamed, hbase, _⟩ := selectionOf_eq_fragment h
  rw [← hbase]
  exact List.mem_map_of_mem (List.mem_filter.mpr ⟨hf, hnamed⟩)

/-- What a request spreads is a model that waits at first or that a visited model refers to. -/
theorem needed_of_mem_spreads {o : Operation} {name : String}
    (h : name ∈ (c.requestFor o).spreads) :
    (∃ m, c.model? name = some m) ∧
      (name ∈ [o.field.typeName] ∨
        ∃ b ∈ c.visit [] [o.field.typeName], name ∈ references b) := by
  have hselection : ∀ {s : Option Selection}, name ∈ (s.bind (·.model?)).toList →
      s = some (.fragment name) := by
    intro s hs
    obtain ⟨t, rfl, hname⟩ := Option.bind_eq_some_iff.mp (Option.mem_toList.mp hs)
    rw [Selection.model?_eq_some_iff.mp hname]
  rcases List.mem_append.mp h with hroot | hbody
  · obtain ⟨hnamed, hbase, hmodel⟩ := selectionOf_eq_fragment (hselection hroot)
    refine ⟨hmodel, .inl ?_⟩
    rw [typeName_of_isNamed hnamed, hbase]
    exact List.mem_cons_self
  · obtain ⟨fr, hfr, hbody⟩ := List.mem_flatMap.mp hbody
    obtain ⟨b, hb, rfl⟩ := List.mem_map.mp hfr
    obtain ⟨g, hg, hbody⟩ := List.mem_flatMap.mp hbody
    obtain ⟨f, hf, rfl⟩ := List.mem_map.mp hg
    have hfragment := hselection hbody
    exact ⟨(selectionOf_eq_fragment hfragment).2.2,
      .inr ⟨b, hb, mem_references_of_selectionOf hf hfragment⟩⟩

/-- A request has a fragment for every model whose fragment it spreads. -/
theorem mem_fragments_of_mem_spreads {o : Operation} {name : String}
    (h : name ∈ (c.requestFor o).spreads) :
    name ∈ (c.requestFor o).fragments.map (·.model) := by
  obtain ⟨⟨m, hm⟩, hneeded⟩ := needed_of_mem_spreads h
  simp only [requestFor, List.map_map, List.mem_map]
  rcases mem_visit hm hneeded with hmem | hmem
  · cases hmem
  · exact ⟨m, hmem, (mem_of_model? hm).2⟩

theorem fragmentName_injective : Function.Injective fragmentName := by
  intro a b h
  have hchars := congrArg String.toList h
  simp only [fragmentName, String.toList_append, List.append_left_inj] at hchars
  exact String.toList_inj.mp hchars

theorem nodup_fragments (c : Collection) (o : Operation) :
    ((c.requestFor o).fragments.map (·.model)).Nodup := by
  have hvisit : ((c.fragmentModels o.field).map (·.name)).Nodup := nodup_visit
  simpa [requestFor, fragmentOf, Function.comp_def] using hvisit

end Collection

end SchemaSdk.Schema
