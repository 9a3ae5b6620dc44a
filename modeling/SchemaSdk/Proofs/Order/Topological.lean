import SchemaSdk.Proofs.Order.Progress
import SchemaSdk.Proofs.Schema.Parsed

/-!
# Models in the order of their dependencies

A model depends on the models that its fields refer to. The graph of a collection is this relation
between the places of the models, so the models have an order exactly if none depends on itself over
any number of steps, and then each stands behind all that it depends on.
-/
namespace SchemaSdk.Schema

/-- One model depends on another when the base type of one of its fields is the other. The name of a
built-in scalar always means the scalar. -/
def Collection.DependsOn (c : Collection) (b a : Model) : Prop :=
  b ∈ c.models ∧ a ∈ c.models ∧ ∃ f ∈ b.fields, f.isNamed = true ∧ f.base = a.name

theorem nodup_eraseDups (l : List String) : l.eraseDups.Nodup := by
  induction hn : l.length using Nat.strong_induction_on generalizing l with
  | _ n ih =>
    cases l with
    | nil => simp
    | cons x l =>
      have hlt : (l.filter fun y => !y == x).length < n := by
        have hle := List.length_filter_le (fun y => !y == x) l
        simp only [List.length_cons] at hn
        omega
      rw [List.eraseDups_cons, List.nodup_cons]
      exact ⟨by simp, ih _ hlt _ rfl⟩

namespace Model

theorem nodup_dependencies (m : Model) : m.dependencies.Nodup :=
  (List.mergeSort_perm _ _).nodup_iff.mpr (nodup_eraseDups _)

theorem mem_dependencies {m : Model} {name : String} :
    name ∈ m.dependencies ↔ ∃ f ∈ m.fields, f.isNamed = true ∧ f.base = name := by
  simp [dependencies, and_assoc]

end Model

namespace Collection

variable {c : Collection} {order : List Model}

/-! ## The dependency graph -/

/-- With different names every model is found at its own place. -/
theorem indexOf?_eq_some_iff (hnames : (c.models.map (·.name)).Nodup) {name : String} {i : Nat} :
    c.indexOf? name = some i ↔ ∃ m, c.models[i]? = some m ∧ m.name = name := by
  rw [indexOf?, List.findIdx?_eq_some_iff_getElem]
  constructor
  · rintro ⟨hi, hname, _⟩
    exact ⟨c.models[i], List.getElem?_eq_getElem hi, by simpa using hname⟩
  · rintro ⟨m, hm, rfl⟩
    obtain ⟨hi, rfl⟩ := List.getElem?_eq_some_iff.mp hm
    refine ⟨hi, by simp, fun j hj => ?_⟩
    simp only [Bool.not_eq_true, beq_eq_false_iff_ne, ne_eq]
    intro heq
    have hj' : j < (c.models.map (·.name)).length := by simpa using hj.trans hi
    have hi' : i < (c.models.map (·.name)).length := by simpa using hi
    have hnames_eq : (c.models.map (·.name))[j] = (c.models.map (·.name))[i] := by simpa using heq
    have hji : j = i := hnames.getElem_inj_iff.mp hnames_eq
    omega

theorem edge_dependencyGraph_iff (hnames : (c.models.map (·.name)).Nodup) {i j : Nat} :
    c.dependencyGraph.Edge i j ↔
      ∃ a b, c.models[i]? = some a ∧ c.models[j]? = some b ∧ c.DependsOn b a := by
  simp only [Graph.Edge, dependencyGraph, List.mem_flatMap, List.mem_map, List.mem_filterMap,
    Prod.exists, List.mk_mem_zipIdx_iff_getElem?, Prod.mk.injEq, indexOf?_eq_some_iff hnames,
    Model.mem_dependencies]
  constructor
  · rintro ⟨b, k, hb, i', ⟨name, ⟨f, hf, hnamed, hbase⟩, a, ha, hname⟩, rfl, rfl⟩
    exact ⟨a, b, ha, hb, List.mem_of_getElem? hb, List.mem_of_getElem? ha, f, hf, hnamed,
      hbase.trans hname.symm⟩
  · rintro ⟨a, b, ha, hb, _, _, f, hf, hnamed, hbase⟩
    exact ⟨b, j, hb, i, ⟨a.name, ⟨f, hf, hnamed, hbase⟩, a, ha, rfl⟩, rfl, rfl⟩

theorem wellFormed_dependencyGraph (hnames : (c.models.map (·.name)).Nodup) :
    c.dependencyGraph.WellFormed where
  nodup := by
    rw [dependencyGraph, List.nodup_flatMap]
    constructor
    · rintro ⟨m, target⟩ _
      refine List.Nodup.map (fun _ _ h => (Prod.mk.inj h).1) ?_
      refine List.Nodup.filterMap ?_ m.nodup_dependencies
      -- A place belongs to one name only.
      intro x y i hx hy
      obtain ⟨a, ha, rfl⟩ := (indexOf?_eq_some_iff hnames).mp hx
      obtain ⟨b, hb, rfl⟩ := (indexOf?_eq_some_iff hnames).mp hy
      rw [Option.some.inj (ha.symm.trans hb)]
    · have htargets : c.models.zipIdx.Pairwise fun x y => x.2 ≠ y.2 := by
        rw [← List.pairwise_map (f := Prod.snd) (R := (· ≠ ·)), List.zipIdx_map_snd]
        exact List.nodup_range'
      refine htargets.imp fun {x y} hne => ?_
      simp only [Function.onFun, List.disjoint_left, List.mem_map]
      rintro _ ⟨_, _, rfl⟩ ⟨_, _, heq⟩
      exact hne (Prod.mk.inj heq).2.symm
  bounded i j e := by
    obtain ⟨a, b, ha, hb, _⟩ := (edge_dependencyGraph_iff hnames).mp e
    exact ⟨(List.getElem?_eq_some_iff.mp ha).1, (List.getElem?_eq_some_iff.mp hb).1⟩

/-- A path between places is a chain of dependencies the other way round. -/
theorem path_dependencyGraph_iff (hnames : (c.models.map (·.name)).Nodup) {i j : Nat} :
    Relation.TransGen c.dependencyGraph.Edge i j ↔
      ∃ a b, c.models[i]? = some a ∧ c.models[j]? = some b ∧ Relation.TransGen c.DependsOn b a := by
  constructor
  · intro h
    induction h with
    | single e =>
      obtain ⟨a, b, ha, hb, hdep⟩ := (edge_dependencyGraph_iff hnames).mp e
      exact ⟨a, b, ha, hb, .single hdep⟩
    | tail _ e ih =>
      obtain ⟨a, m, ha, hm, hpath⟩ := ih
      obtain ⟨m', b, hm', hb, hdep⟩ := (edge_dependencyGraph_iff hnames).mp e
      obtain rfl := Option.some.inj (hm.symm.trans hm')
      exact ⟨a, b, ha, hb, .head hdep hpath⟩
  · rintro ⟨a, b, ha, hb, hpath⟩
    induction hpath using Relation.TransGen.head_induction_on generalizing j with
    | single hdep => exact .single ((edge_dependencyGraph_iff hnames).mpr ⟨a, _, ha, hb, hdep⟩)
    | head hdep _ ih =>
      have hplace := List.getElem?_idxOf hdep.2.1
      exact .tail (ih hplace) ((edge_dependencyGraph_iff hnames).mpr ⟨_, _, hplace, hb, hdep⟩)

/-- A cycle of places is a cycle of models and the other way round. -/
theorem acyclic_dependencyGraph_iff (hnames : (c.models.map (·.name)).Nodup) :
    c.dependencyGraph.Acyclic ↔ ∀ m, ¬ Relation.TransGen c.DependsOn m m := by
  constructor
  · intro hacyclic m hcycle
    obtain ⟨_, ⟨hm, _⟩, _⟩ := Relation.TransGen.head'_iff.mp hcycle
    have hplace := List.getElem?_idxOf hm
    exact hacyclic _ ((path_dependencyGraph_iff hnames).mpr ⟨m, m, hplace, hplace, hcycle⟩)
  · intro hacyclic i hcycle
    obtain ⟨a, b, ha, hb, hpath⟩ := (path_dependencyGraph_iff hnames).mp hcycle
    obtain rfl := Option.some.inj (ha.symm.trans hb)
    exact hacyclic a hpath

/-! ## The models in order -/

theorem topologicalOrder_eq_ok_iff (hnames : (c.models.map (·.name)).Nodup) :
    c.topologicalOrder = .ok order ↔
      c.dependencyGraph.order.length = c.dependencyGraph.size ∧
        order = c.modelsAt c.dependencyGraph.order := by
  have hle := Graph.length_order_le (wellFormed_dependencyGraph hnames)
  by_cases h : c.dependencyGraph.order.length < c.dependencyGraph.size
  · simp [topologicalOrder, h, h.ne]
  · simp [topologicalOrder, Nat.le_antisymm hle (Nat.le_of_not_lt h), eq_comm]

theorem getElem?_modelsAt {places : List Nat} (h : ∀ n ∈ places, n < c.models.length) (i : Nat) :
    (c.modelsAt places)[i]? = places[i]?.bind (c.models[·]?) := by
  induction places generalizing i with
  | nil => rfl
  | cons n places ih =>
    obtain ⟨hn, hplaces⟩ := List.forall_mem_cons.mp h
    have hcons : c.modelsAt (n :: places) = c.models[n] :: c.modelsAt places := by
      simp [modelsAt, List.getElem?_eq_getElem hn]
    rw [hcons]
    cases i with
    | zero => simp [hn]
    | succ i => simpa using ih hplaces i

theorem modelsAt_range (c : Collection) : c.modelsAt (List.range c.models.length) = c.models := by
  apply List.ext_getElem?
  intro i
  rw [getElem?_modelsAt (by simp)]
  by_cases hi : i < c.models.length
  · simp [hi]
  · simp [hi]

/-- The order of a collection has each of its models once. -/
theorem perm_of_topologicalOrder (hnames : (c.models.map (·.name)).Nodup)
    (h : c.topologicalOrder = .ok order) : order.Perm c.models := by
  obtain ⟨hlen, rfl⟩ := (topologicalOrder_eq_ok_iff hnames).mp h
  have hperm := Graph.order_perm_range (wellFormed_dependencyGraph hnames) hlen
  calc
    (c.modelsAt c.dependencyGraph.order).Perm (c.modelsAt (List.range c.models.length)) :=
      hperm.filterMap _
    _ = c.models := c.modelsAt_range

/-- What a model depends on stands before it. -/
theorem lt_of_dependsOn (hnames : (c.models.map (·.name)).Nodup)
    (h : c.topologicalOrder = .ok order) {i j : Nat} {b a : Model} (hb : order[i]? = some b)
    (ha : order[j]? = some a) (hdep : c.DependsOn b a) : j < i := by
  have hg := wellFormed_dependencyGraph hnames
  obtain ⟨hlen, rfl⟩ := (topologicalOrder_eq_ok_iff hnames).mp h
  rw [getElem?_modelsAt fun n hn => Graph.lt_of_mem_order hg hn] at ha hb
  obtain ⟨t, ht, hb⟩ := Option.bind_eq_some_iff.mp hb
  obtain ⟨s, hs, ha⟩ := Option.bind_eq_some_iff.mp ha
  have hedge : c.dependencyGraph.Edge s t :=
    (edge_dependencyGraph_iff hnames).mpr ⟨a, b, ha, hb, hdep⟩
  have hlt := Graph.idxOf_lt_idxOf_of_edge hg hedge (List.mem_of_getElem? ht)
  obtain ⟨hi, rfl⟩ := List.getElem?_eq_some_iff.mp ht
  obtain ⟨hj, rfl⟩ := List.getElem?_eq_some_iff.mp hs
  have hnodup := Graph.nodup_order hg
  rwa [hnodup.idxOf_getElem, hnodup.idxOf_getElem] at hlt

theorem exists_topologicalOrder_iff (hnames : (c.models.map (·.name)).Nodup) :
    (∃ order, c.topologicalOrder = .ok order) ↔ ∀ m, ¬ Relation.TransGen c.DependsOn m m := by
  rw [← acyclic_dependencyGraph_iff hnames,
    ← Graph.length_order_eq_iff (wellFormed_dependencyGraph hnames)]
  simp only [topologicalOrder_eq_ok_iff hnames, exists_and_left, exists_eq, and_true]

/-- **The order of a parsed schema.** There is one exactly if no model depends on itself over any
number of steps. It has every model once, and each stands behind all that it depends on. -/
theorem topologicalOrder_of_parse {sdl : String} (h : parse sdl = .ok c) :
    ((∃ order, c.topologicalOrder = .ok order) ↔ ∀ m, ¬ Relation.TransGen c.DependsOn m m) ∧
      ∀ order, c.topologicalOrder = .ok order →
        order.Perm c.models ∧ c.models.Nodup ∧
          ∀ (i j : Nat) (b a : Model), order[i]? = some b → order[j]? = some a →
            c.DependsOn b a → j < i := by
  have hnames := (wellFormed_of_parse h).nodup_modelNames
  refine ⟨exists_topologicalOrder_iff hnames, fun order horder => ⟨?_, ?_, ?_⟩⟩
  · exact perm_of_topologicalOrder hnames horder
  · exact List.Nodup.of_map _ hnames
  · intro i j b a hb ha hdep
    exact lt_of_dependsOn hnames horder hb ha hdep

/-- A model that is defined before the one it refers to changes places with it. -/
theorem topologicalOrder_of_parse_forward_reference :
    ∃ c order, parse "type A { b: B } type B { x: Int }" = .ok c ∧
      c.topologicalOrder = .ok order ∧ order.map (·.name) = ["B", "A"] ∧
      ∀ m, ¬ Relation.TransGen c.DependsOn m m := by
  have hread : (parse "type A { b: B } type B { x: Int }").toOption.any (fun c =>
      c.topologicalOrder.toOption.any fun order => order.map (·.name) == ["B", "A"]) = true := by
    decide +kernel
  obtain ⟨c, h, hc⟩ := exists_eq_ok_of_any hread
  obtain ⟨order, horder, hnames⟩ := exists_eq_ok_of_any hc
  exact ⟨c, order, h, horder, eq_of_beq hnames,
    (topologicalOrder_of_parse h).1.mp ⟨order, horder⟩⟩

end Collection
end SchemaSdk.Schema
