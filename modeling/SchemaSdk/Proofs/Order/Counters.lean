import Mathlib.Data.Set.Card
import SchemaSdk.Proofs.Order.Topological

/-!
# The counters of a run

A run counts down, for every model, the models that it depends on and that are still to come. The
counts say no more than that at every step, so a model that is released always has something to be
counted down, and it becomes ready once, when the last of these models is done. Places are looked up
only where there is one, and there are no more steps than models.
-/
namespace SchemaSdk.Schema

namespace Graph

variable {g : Graph} {p : Progress} {n m : Nat} {rest : List Nat}

/-- The progress after the first ready node was taken, before anything is released. -/
def Progress.taken (p : Progress) : Progress :=
  match p.ready with
  | [] => p
  | n :: ready => ⟨p.waiting, ready, n :: p.done⟩

/-- Nothing goes wrong in the step that takes a node after as many others as given. There are more
nodes than that, and the node is one of them. Whichever of its successors is released after some
others, it is a node, it still waits for some, and it has never been ready, neither before this step
nor within it. -/
structure SafeStep (g : Graph) (k n : Nat) : Prop where
  step_lt : k < g.size
  node_lt : n < g.size
  successor : ∀ before m after, g.successors n = before ++ m :: after →
    m < g.size ∧
    (∃ w, (before.foldl release (g.progress k).taken).waiting[m]? = some (w + 1)) ∧
    (∀ j ≤ k, m ∉ (g.progress j).ready) ∧
    m ∉ (before.foldl release (g.progress k).taken).ready

/-! ## Steps -/

theorem Progress.taken_of_ready (h : p.ready = n :: rest) :
    p.taken = ⟨p.waiting, rest, n :: p.done⟩ := by
  rw [taken, h]

theorem done_step_suffix (g : Graph) (p : Progress) : p.done <:+ (g.step p).done := by
  cases h : p.ready with
  | nil => rw [step, h]
  | cons n rest =>
    rw [done_step h]
    exact List.suffix_cons n p.done

/-- What is done stays done. -/
theorem done_progress_suffix (g : Graph) {j k : Nat} (h : j ≤ k) :
    (g.progress j).done <:+ (g.progress k).done := by
  induction k, h using Nat.le_induction with
  | base => exact List.suffix_rfl
  | succ k _ ih => exact ih.trans (g.done_step_suffix _)

/-! ## Releases -/

/-- While nothing but other nodes was released, a successor waits for the node that was taken. -/
theorem Invariant.exists_waiting_of_released (hg : g.WellFormed) (hp : g.Invariant p)
    (hready : p.ready = n :: rest) {before : List Nat} (hbefore : before.Nodup) (hm : m ∉ before)
    (e : g.Edge n m) : ∃ w, (before.foldl release p.taken).waiting[m]? = some (w + 1) := by
  obtain ⟨_, hn, _⟩ := (hp.mem_ready n).mp (hready ▸ List.mem_cons_self)
  refine ⟨g.missing (n :: p.done) m, ?_⟩
  rw [getElem?_waiting_foldl_release hbefore, Progress.taken_of_ready hready,
    hp.getElem?_waiting (hg.bounded n m e).2, Option.map_some, if_neg hm, missing_cons hg hn,
    if_pos ((mem_successors g n m).mpr e)]

/-- **No step of a run goes wrong.** -/
theorem safeStep_of_ready (hg : g.WellFormed) {k : Nat}
    (hready : (g.progress k).ready = n :: rest) : g.SafeStep k n := by
  have hp := invariant_progress hg k
  obtain ⟨hlt, hn, _⟩ := (hp.mem_ready n).mp (hready ▸ List.mem_cons_self)
  refine ⟨?_, hlt, fun before m after hsuccessors => ?_⟩
  · -- The nodes that are done are as many as the steps, and the ready one is not among them.
    have hlength : (g.progress k).done.length = k :=
      (ready_progress_or_length_done g k).resolve_left (by simp [hready])
    have hsub : n :: (g.progress k).done ⊆ List.range g.size := by
      refine List.cons_subset.mpr ⟨List.mem_range.mpr hlt, fun m hm => ?_⟩
      exact List.mem_range.mpr (hp.done_lt m hm)
    simpa [hlength] using ((List.nodup_cons.mpr ⟨hn, hp.done_nodup⟩).subperm hsub).length_le
  · have e : g.Edge n m := (mem_successors g n m).mp (by simp [hsuccessors])
    have hnodup := hg.nodup_successors n
    rw [hsuccessors] at hnodup
    have hbefore : before.Nodup := hnodup.of_append_left
    have hm : m ∉ before := fun h => hnodup.disjoint h List.mem_cons_self
    have hnever : ∀ j ≤ k, m ∉ (g.progress j).ready := fun j hj =>
      (invariant_progress hg j).not_mem_ready_of_edge
        (fun hdone => hn ((g.done_progress_suffix hj).subset hdone)) e
    refine ⟨(hg.bounded n m e).2, hp.exists_waiting_of_released hg hready hbefore hm e, hnever, ?_⟩
    rw [mem_ready_foldl_release hbefore, Progress.taken_of_ready hready]
    rintro (hrest | ⟨hrest, _⟩)
    · exact hnever k le_rfl (hready ▸ List.mem_cons_of_mem n hrest)
    · exact hm hrest

end Graph

namespace Collection

variable {c : Collection} {p : Graph.Progress}

/-- The counters of a collection at some point of a run: for each model the number of the models
that it depends on and that are not done, and those models ready, each once, that are not done and
whose counter has come down to zero. -/
structure Counted (c : Collection) (p : Graph.Progress) : Prop where
  length_waiting : p.waiting.length = c.models.length
  getElem?_waiting : ∀ (i : Nat) (m : Model), c.models[i]? = some m →
    p.waiting[i]? = some {a | c.DependsOn m a ∧ a ∉ c.modelsAt p.done}.ncard
  ready_nodup : p.ready.Nodup
  mem_ready_iff : ∀ i, i ∈ p.ready ↔ i < c.models.length ∧ i ∉ p.done ∧ p.waiting[i]? = some 0

theorem mem_modelsAt_iff (hmodels : c.models.Nodup) {places : List Nat} {i : Nat} {a : Model}
    (ha : c.models[i]? = some a) : a ∈ c.modelsAt places ↔ i ∈ places := by
  rw [modelsAt, List.mem_filterMap]
  constructor
  · rintro ⟨j, hj, ha'⟩
    obtain ⟨hi, rfl⟩ := List.getElem?_eq_some_iff.mp ha
    obtain ⟨hj', heq⟩ := List.getElem?_eq_some_iff.mp ha'
    rwa [← hmodels.getElem_inj_iff.mp heq]
  · intro hi
    exact ⟨i, hi, ha⟩

/-- What is missing for a node are the models that its model depends on and that are not done. -/
theorem missing_dependencyGraph (hnames : (c.models.map (·.name)).Nodup) {i : Nat} {m : Model}
    (hm : c.models[i]? = some m) (done : List Nat) :
    c.dependencyGraph.missing done i = {a | c.DependsOn m a ∧ a ∉ c.modelsAt done}.ncard := by
  have hmodels : c.models.Nodup := .of_map _ hnames
  have hg := wellFormed_dependencyGraph hnames
  -- The sources of the edges that are counted are the places of these models.
  let sources := (c.dependencyGraph.edges.filter fun e => e.2 == i && !done.contains e.1).map (·.1)
  have hsources : sources.Nodup := by
    refine List.Nodup.map_on ?_ (hg.nodup.filter _)
    intro e he f hf heq
    simp only [List.mem_filter, Bool.and_eq_true, beq_iff_eq] at he hf
    exact Prod.ext heq (he.2.1.trans hf.2.1.symm)
  have hmem : ∀ s, s ∈ sources ↔ c.dependencyGraph.Edge s i ∧ s ∉ done := by
    intro s
    simp [sources, Graph.Edge]
  have himage : c.models.idxOf '' {a | c.DependsOn m a ∧ a ∉ c.modelsAt done} =
      (sources.toFinset : Set Nat) := by
    ext s
    rw [List.coe_toFinset, Set.mem_image, Set.mem_ofPred_eq, hmem, edge_dependencyGraph_iff hnames]
    constructor
    · rintro ⟨a, ⟨hdep, hdone⟩, rfl⟩
      have ha := List.getElem?_idxOf hdep.2.1
      exact ⟨⟨a, m, ha, hm, hdep⟩, fun h => hdone ((mem_modelsAt_iff hmodels ha).mpr h)⟩
    · rintro ⟨⟨a, b, ha, hb, hdep⟩, hdone⟩
      obtain rfl := Option.some.inj (hm.symm.trans hb)
      refine ⟨a, ⟨hdep, fun h => hdone ((mem_modelsAt_iff hmodels ha).mp h)⟩, ?_⟩
      obtain ⟨hs, rfl⟩ := List.getElem?_eq_some_iff.mp ha
      exact hmodels.idxOf_getElem s hs
  have hinj : Set.InjOn c.models.idxOf {a | c.DependsOn m a ∧ a ∉ c.modelsAt done} :=
    fun a ha b _ heq => (List.idxOf_inj ha.1.2.1).mp heq
  calc
    c.dependencyGraph.missing done i = sources.length := by
      rw [Graph.missing, List.countP_eq_length_filter, List.length_map]
    _ = (c.models.idxOf '' {a | c.DependsOn m a ∧ a ∉ c.modelsAt done}).ncard := by
      rw [himage, Set.ncard_coe_finset, List.toFinset_card_of_nodup hsources]
    _ = {a | c.DependsOn m a ∧ a ∉ c.modelsAt done}.ncard := hinj.ncard_image

theorem counted_of_invariant (hnames : (c.models.map (·.name)).Nodup) {g : Graph}
    (hsize : g.size = c.models.length) (hedges : g.edges.Perm c.dependencyGraph.edges)
    (hp : g.Invariant p) : c.Counted p where
  length_waiting := by rw [hp.waiting_eq, List.length_map, List.length_range, hsize]
  getElem?_waiting i m hm := by
    have hi : i < g.size := hsize ▸ (List.getElem?_eq_some_iff.mp hm).1
    rw [hp.getElem?_waiting hi, Graph.missing, hedges.countP_eq]
    exact congrArg some (missing_dependencyGraph hnames hm p.done)
  ready_nodup := hp.ready_sorted.imp fun h => h.ne
  mem_ready_iff i := by
    rw [hp.mem_ready, ← hsize]
    refine and_congr_right fun hi => and_congr_right fun _ => ?_
    rw [hp.getElem?_waiting hi, Option.some.injEq]

/-- **The counters of a parsed schema.** Every model is found at its own place, and the edges of the
dependency graph join places of models. In whatever order the edges are visited, after any number of
steps the counters are those of the models that are not done, and a step that takes a node does not
go wrong: there are fewer steps before it than models, and each model that it releases has a place
and a counter above zero and has not been ready before. -/
theorem counted_of_parse {sdl : String} (h : parse sdl = .ok c) :
    (∀ (i : Nat) (m : Model), c.models[i]? = some m → c.indexOf? m.name = some i) ∧
    (∀ s t, c.dependencyGraph.Edge s t → s < c.models.length ∧ t < c.models.length) ∧
    ∀ g : Graph, g.size = c.models.length → g.edges.Perm c.dependencyGraph.edges →
      ∀ k, c.Counted (g.progress k) ∧
        ∀ n rest, (g.progress k).ready = n :: rest → g.SafeStep k n := by
  have hnames := (wellFormed_of_parse h).nodup_modelNames
  have hg := wellFormed_dependencyGraph hnames
  refine ⟨fun i m hm => (indexOf?_eq_some_iff hnames).mpr ⟨m, hm, rfl⟩, hg.bounded, ?_⟩
  intro g hsize hedges k
  have hg' := hg.of_perm hsize hedges
  exact ⟨counted_of_invariant hnames hsize hedges (Graph.invariant_progress hg' k),
    fun n rest hready => Graph.safeStep_of_ready hg' hready⟩

/-- A model that refers to another twice waits for it once, and one that refers to itself waits for
itself. -/
theorem counted_of_parse_repeated :
    ∃ c, parse "type A { b: B c: [B!]! } type B { x: Int } type C { c: C }" = .ok c ∧
      (c.dependencyGraph.progress 0).waiting = [1, 0, 1] ∧
      (c.dependencyGraph.progress 1).waiting = [0, 0, 1] ∧
      c.Counted (c.dependencyGraph.progress 0) ∧ c.dependencyGraph.SafeStep 0 1 ∧
      c.Counted (c.dependencyGraph.progress 1) ∧ c.dependencyGraph.SafeStep 1 0 := by
  have hread : (parse "type A { b: B c: [B!]! } type B { x: Int } type C { c: C }").toOption.any
      (fun c => decide (
        (c.dependencyGraph.progress 0).waiting = [1, 0, 1] ∧
        (c.dependencyGraph.progress 1).waiting = [0, 0, 1] ∧
        (c.dependencyGraph.progress 0).ready = [1] ∧
        (c.dependencyGraph.progress 1).ready = [0])) = true := by
    decide +kernel
  obtain ⟨c, h, hc⟩ := exists_eq_ok_of_any hread
  obtain ⟨hfirst, hsecond, hready, hready'⟩ := of_decide_eq_true hc
  obtain ⟨_, _, hrun⟩ := counted_of_parse h
  have hsteps := hrun c.dependencyGraph rfl (.refl _)
  exact ⟨c, h, hfirst, hsecond, (hsteps 0).1, (hsteps 0).2 1 [] hready, (hsteps 1).1,
    (hsteps 1).2 0 [] hready'⟩

end Collection
end SchemaSdk.Schema
