import Mathlib.Order.Bounds.Basic
import SchemaSdk.Proofs.Order.Topological

/-!
# The earliest order

Every step of a run takes the least of the nodes that can come next. An order made so is the first
of all possible ones when orders are compared node by node, and it does not change with the order in
which the edges of a graph are listed. For a collection it is the order of the models that comes
first when models are compared by their places in the schema.
-/
namespace SchemaSdk.Schema

namespace Graph

variable {g g' : Graph} {p : Progress} {done l l' : List Nat} {n : Nat}

/-! ## Nodes that can come next -/

/-- A node can come next: it is not done, and all its predecessors are. -/
def Ready (g : Graph) (done : List Nat) (n : Nat) : Prop :=
  n < g.size ∧ n ∉ done ∧ ∀ s, g.Edge s n → s ∈ done

/-- Each node of the second list can come next after those before it. -/
def Feasible (g : Graph) : List Nat → List Nat → Prop
  | _, [] => True
  | done, n :: rest => g.Ready done n ∧ g.Feasible (n :: done) rest

/-- Each node of the second list is the least that can come next after those before it. -/
def Greedy (g : Graph) : List Nat → List Nat → Prop
  | _, [] => True
  | done, n :: rest => IsLeast {m | g.Ready done m} n ∧ g.Greedy (n :: done) rest

theorem greedy_append_singleton :
    g.Greedy done (l ++ [n]) ↔ g.Greedy done l ∧ IsLeast {m | g.Ready (l.reverse ++ done) m} n := by
  induction l generalizing done with
  | nil => simp [Greedy]
  | cons m l ih => simp [Greedy, ih, and_assoc]

/-- What a greedy list has at a place is the least that can come next there. -/
theorem Greedy.isLeast (h : g.Greedy done l) {i : Nat} (hn : l[i]? = some n) :
    IsLeast {m | g.Ready ((l.take i).reverse ++ done) m} n := by
  induction l generalizing done i with
  | nil => cases hn
  | cons m l ih =>
    cases i with
    | zero =>
      obtain rfl : m = n := by simpa using hn
      exact h.1
    | succ i => simpa using ih h.2 (by simpa using hn)

theorem feasible_of_getElem?
    (h : ∀ i n, l[i]? = some n → g.Ready ((l.take i).reverse ++ done) n) :
    g.Feasible done l := by
  induction l generalizing done with
  | nil => trivial
  | cons m l ih =>
    refine ⟨h 0 m rfl, ih fun i n hn => ?_⟩
    simpa using h (i + 1) n (by simpa using hn)

/-! ## Runs are greedy -/

theorem Invariant.mem_ready_iff (hp : g.Invariant p) : n ∈ p.ready ↔ g.Ready p.done n := by
  rw [hp.mem_ready, Ready, missing_eq_zero_iff]

/-- The ready nodes are in ascending order, so a step takes the least of them. -/
theorem Invariant.isLeast (hp : g.Invariant p) {rest : List Nat} (hready : p.ready = n :: rest) :
    IsLeast {m | g.Ready p.done m} n := by
  have hsorted := hp.ready_sorted
  rw [hready, List.pairwise_cons] at hsorted
  refine ⟨hp.mem_ready_iff.mp (hready ▸ List.mem_cons_self), fun m hm => ?_⟩
  have hmem : m ∈ n :: rest := hready ▸ hp.mem_ready_iff.mpr hm
  rcases List.mem_cons.mp hmem with rfl | hmem
  · exact le_rfl
  · exact (hsorted.1 m hmem).le

theorem greedy_progress (hg : g.WellFormed) (k : Nat) :
    g.Greedy [] (g.progress k).done.reverse := by
  induction k with
  | zero => trivial
  | succ k ih =>
    cases hready : (g.progress k).ready with
    | nil => simpa [progress, Graph.step, hready] using ih
    | cons n ready =>
      have hleast := (invariant_progress hg k).isLeast hready
      have hdone : (g.progress (k + 1)).done.reverse = (g.progress k).done.reverse ++ [n] := by
        simp [progress, Graph.step, hready]
      rw [hdone, greedy_append_singleton]
      exact ⟨ih, by simpa using hleast⟩

theorem greedy_order (hg : g.WellFormed) : g.Greedy [] g.order := greedy_progress hg g.size

/-! ## Greedy lists come first -/

/-- **A greedy list comes first** of the possible lists of its length. Where one of them goes apart
from it, the node it takes there could come next for the greedy list as well. -/
theorem Greedy.eq_or_lex (h : g.Greedy done l) (h' : g.Feasible done l')
    (hlen : l'.length = l.length) : l' = l ∨ List.Lex (· < ·) l l' := by
  induction l generalizing done l' with
  | nil => exact .inl (List.length_eq_zero_iff.mp hlen)
  | cons n l ih =>
    match l' with
    | [] => cases hlen
    | m :: l' =>
      rcases (h.1.2 h'.1).lt_or_eq with hlt | rfl
      · exact .inr (.rel hlt)
      · rcases ih h.2 h'.2 (by simpa using hlen) with rfl | hlex
        · exact .inl rfl
        · exact .inr (.cons hlex)

/-- Greedy lists of one length are the same if the same nodes can come next. -/
theorem Greedy.eq_of_ready_iff (hready : ∀ done n, g.Ready done n ↔ g'.Ready done n)
    (h : g.Greedy done l) (h' : g'.Greedy done l') (hlen : l'.length = l.length) : l' = l := by
  induction l generalizing done l' with
  | nil => exact List.length_eq_zero_iff.mp hlen
  | cons n l ih =>
    match l' with
    | [] => cases hlen
    | m :: l' =>
      have hleast : IsLeast {k | g.Ready done k} m := by
        simpa only [hready] using h'.1
      obtain rfl := h.1.unique hleast
      rw [ih h.2 h'.2 (by simpa using hlen)]

/-- The order of a graph without a cycle does not change with the order of its edges. -/
theorem order_eq_of_perm (hg : g.WellFormed) (hacyclic : g.Acyclic) (hsize : g'.size = g.size)
    (hedges : g'.edges.Perm g.edges) : g'.order = g.order := by
  have hedge : g'.Edge = g.Edge := by
    funext s t
    exact propext hedges.mem_iff
  have hg' := hg.of_perm hsize hedges
  have hacyclic' : g'.Acyclic := by
    rw [Acyclic, hedge]
    exact hacyclic
  have hlen := (length_order_eq_iff hg).mpr hacyclic
  have hlen' := (length_order_eq_iff hg').mpr hacyclic'
  refine (greedy_order hg).eq_of_ready_iff (fun done n => ?_) (greedy_order hg') (by omega)
  rw [Ready, Ready, hedge, hsize]

end Graph

namespace Collection

variable {c : Collection} {l : List Model}

/-! ## Orders of models -/

/-- All models of a collection, each once and behind all that it depends on. -/
structure Respects (c : Collection) (l : List Model) : Prop where
  perm : l.Perm c.models
  behind : ∀ (i j : Nat) (b a : Model), l[i]? = some b → l[j]? = some a → c.DependsOn b a → j < i

/-- The places that models have in the schema. -/
def places (c : Collection) (l : List Model) : List Nat := l.map c.models.idxOf

theorem places_modelsAt (hmodels : c.models.Nodup) {ns : List Nat}
    (h : ∀ n ∈ ns, n < c.models.length) : c.places (c.modelsAt ns) = ns := by
  apply List.ext_getElem?
  intro i
  rw [places, List.getElem?_map, getElem?_modelsAt h]
  cases hn : ns[i]? with
  | none => rfl
  | some n =>
    have hlt := h n (List.mem_of_getElem? hn)
    simp [List.getElem?_eq_getElem hlt, hmodels.idxOf_getElem]

theorem modelsAt_places (h : ∀ m ∈ l, m ∈ c.models) : c.modelsAt (c.places l) = l := by
  rw [modelsAt, places, List.filterMap_map]
  calc
    l.filterMap (fun m => c.models[c.models.idxOf m]?) = l.filterMap some :=
      List.filterMap_congr fun m hm => List.getElem?_idxOf (h m hm)
    _ = l := List.filterMap_some

/-- A model can come next when all that it depends on stands before it. -/
theorem ready_of_dependsOn (hnames : (c.models.map (·.name)).Nodup) {m : Model}
    (hm : m ∈ c.models) (hnot : m ∉ l) (hdeps : ∀ a, c.DependsOn m a → a ∈ l) :
    c.dependencyGraph.Ready (c.places l) (c.models.idxOf m) := by
  have hmodels : c.models.Nodup := .of_map _ hnames
  refine ⟨List.idxOf_lt_length_iff.mpr hm, ?_, ?_⟩
  · intro hmem
    obtain ⟨a, ha, hsame⟩ := List.mem_map.mp hmem
    obtain rfl := (List.idxOf_inj hm).mp hsame.symm
    exact hnot ha
  · intro s e
    obtain ⟨a, b, ha, hb, hdep⟩ := (edge_dependencyGraph_iff hnames).mp e
    obtain rfl := Option.some.inj ((List.getElem?_idxOf hm).symm.trans hb)
    obtain ⟨hs, rfl⟩ := List.getElem?_eq_some_iff.mp ha
    rw [← hmodels.idxOf_getElem s hs]
    exact List.mem_map_of_mem (hdeps _ hdep)

theorem Respects.feasible (hnames : (c.models.map (·.name)).Nodup) (h : c.Respects l) :
    c.dependencyGraph.Feasible [] (c.places l) := by
  have hnodup : l.Nodup := h.perm.nodup_iff.mpr (.of_map _ hnames)
  refine Graph.feasible_of_getElem? fun i n hn => ?_
  rw [places, List.getElem?_map, Option.map_eq_some_iff] at hn
  obtain ⟨m, hm, rfl⟩ := hn
  have hbefore : ((c.places l).take i).reverse ++ [] = c.places (l.take i).reverse := by
    simp [places]
  rw [hbefore]
  refine ready_of_dependsOn hnames (h.perm.mem_iff.mp (List.mem_of_getElem? hm)) ?_ ?_
  · obtain ⟨hi, rfl⟩ := List.getElem?_eq_some_iff.mp hm
    rw [List.mem_reverse, List.mem_take_iff_idxOf_lt (List.getElem_mem hi),
      hnodup.idxOf_getElem i hi]
    exact lt_irrefl i
  · intro a hdep
    obtain ⟨j, ha⟩ := List.mem_iff_getElem?.mp (h.perm.mem_iff.mpr hdep.2.1)
    have hlt := h.behind i j m a hm ha hdep
    rw [List.mem_reverse]
    exact List.mem_of_getElem? ((List.getElem?_take_of_lt hlt).trans ha)

theorem respects_of_topologicalOrder (hnames : (c.models.map (·.name)).Nodup) {order : List Model}
    (h : c.topologicalOrder = .ok order) : c.Respects order :=
  ⟨perm_of_topologicalOrder hnames h, fun _ _ _ _ hb ha => lt_of_dependsOn hnames h hb ha⟩

/-- **The order of a parsed schema is the earliest.** Without a cycle there is an order of the
models in which each stands behind all that it depends on, and of all such orders the one that is
found comes first when they are compared by the places of the models in the schema. At each step the
first of the models that can come next is taken. In whatever order the edges of the dependency graph
are visited, the result is the same. -/
theorem topologicalOrder_earliest {sdl : String} (h : parse sdl = .ok c)
    (hacyclic : ∀ m, ¬ Relation.TransGen c.DependsOn m m) :
    ∃ order, c.topologicalOrder = .ok order ∧ c.Respects order ∧
      (∀ other, c.Respects other →
        other = order ∨ List.Lex (· < ·) (c.places order) (c.places other)) ∧
      (∀ (i : Nat) (m : Model), order[i]? = some m → ∀ other ∈ c.models, other ∉ order.take i →
        (∀ a, c.DependsOn other a → a ∈ order.take i) →
          c.models.idxOf m ≤ c.models.idxOf other) ∧
      ∀ g : Graph, g.size = c.dependencyGraph.size → g.edges.Perm c.dependencyGraph.edges →
        c.modelsAt g.order = order := by
  have hnames := (wellFormed_of_parse h).nodup_modelNames
  have hmodels : c.models.Nodup := .of_map _ hnames
  have hg := wellFormed_dependencyGraph hnames
  have hgraph := (acyclic_dependencyGraph_iff hnames).mpr hacyclic
  obtain ⟨order, horder⟩ := (exists_topologicalOrder_iff hnames).mpr hacyclic
  have hrespects := respects_of_topologicalOrder hnames horder
  obtain ⟨_, rfl⟩ := (topologicalOrder_eq_ok_iff hnames).mp horder
  have hplaces : c.places (c.modelsAt c.dependencyGraph.order) = c.dependencyGraph.order :=
    places_modelsAt hmodels fun n hn => Graph.lt_of_mem_order hg hn
  refine ⟨_, horder, hrespects, ?_, ?_, ?_⟩
  · intro other hother
    have hlen : (c.places other).length = c.dependencyGraph.order.length := by
      rw [← hplaces, places, places, List.length_map, List.length_map,
        (hother.perm.trans hrespects.perm.symm).length_eq]
    rcases (Graph.greedy_order hg).eq_or_lex (hother.feasible hnames) hlen with heq | hlex
    · left
      rw [← heq, modelsAt_places fun m hm => hother.perm.mem_iff.mp hm]
    · right
      rwa [hplaces]
  · intro i m hm other hother hnot hdeps
    have hplace : c.dependencyGraph.order[i]? = some (c.models.idxOf m) := by
      rw [← hplaces, places, List.getElem?_map, hm, Option.map_some]
    refine ((Graph.greedy_order hg).isLeast hplace).2 ?_
    have hbefore : (c.dependencyGraph.order.take i).reverse ++ [] =
        c.places ((c.modelsAt c.dependencyGraph.order).take i).reverse := by
      simp only [places, List.map_reverse, List.map_take, List.append_nil]
      rw [← places, hplaces]
    rw [Set.mem_ofPred_eq, hbefore]
    exact ready_of_dependsOn hnames hother (by simpa using hnot)
      fun a hdep => List.mem_reverse.mpr (hdeps a hdep)
  · intro g hsize hedges
    rw [Graph.order_eq_of_perm hg hgraph hsize hedges]

/-- A model that waits for a later one lets others pass, and comes before those behind it as soon as
it can. -/
theorem topologicalOrder_earliest_waiting :
    ∃ c order, parse "type A { b: B } type B { x: Int } type C { b: [B!] } type D { y: ID }" =
        .ok c ∧
      (∀ m, ¬ Relation.TransGen c.DependsOn m m) ∧ c.topologicalOrder = .ok order ∧
      order.map (·.name) = ["B", "A", "C", "D"] ∧
      ∀ other, c.Respects other →
        other = order ∨ List.Lex (· < ·) (c.places order) (c.places other) := by
  have hread : (parse
      "type A { b: B } type B { x: Int } type C { b: [B!] } type D { y: ID }").toOption.any
        (fun c => c.topologicalOrder.toOption.any fun order =>
          order.map (·.name) == ["B", "A", "C", "D"]) = true := by
    decide +kernel
  obtain ⟨c, h, hc⟩ := exists_eq_ok_of_any hread
  obtain ⟨order, horder, hnames⟩ := exists_eq_ok_of_any hc
  have hacyclic := (exists_topologicalOrder_iff (wellFormed_of_parse h).nodup_modelNames).mp
    ⟨order, horder⟩
  obtain ⟨earliest, hearliest, _, hfirst, _⟩ := topologicalOrder_earliest h hacyclic
  obtain rfl := Except.ok.inj (horder.symm.trans hearliest)
  exact ⟨c, order, h, hacyclic, horder, eq_of_beq hnames, hfirst⟩

end Collection
end SchemaSdk.Schema
