import Mathlib.Data.List.Nodup
import Mathlib.Logic.Relation
import Mathlib.Order.WellFoundedSet
import SchemaSdk.Schema.Order

/-!
# What the ordering of a graph keeps

The counts, the ready nodes and the nodes done belong together: a node waits for the predecessors
that are not done, and it is ready when it is not done and waits for none. Every step keeps this, so
every run does. A run that stalls leaves nodes each of which has a predecessor that is left as well,
and in a finite graph that is a cycle.
-/
namespace SchemaSdk.Schema.Graph

variable {g : Graph} {p : Progress}

/-- An edge leads from the one node to the other. -/
def Edge (g : Graph) (s t : Nat) : Prop := (s, t) ∈ g.edges

/-- Every edge is listed once and joins nodes of the graph. -/
structure WellFormed (g : Graph) : Prop where
  nodup : g.edges.Nodup
  bounded : ∀ s t, g.Edge s t → s < g.size ∧ t < g.size

/-- No path of one edge or more leads from a node back to it. -/
def Acyclic (g : Graph) : Prop := ∀ n, ¬ Relation.TransGen g.Edge n n

/-- How many edges lead to a node from nodes that are not done. -/
def missing (g : Graph) (done : List Nat) (n : Nat) : Nat :=
  g.edges.countP fun e => e.2 == n && !done.contains e.1

/-- Behind every node of the list stand all its predecessors. -/
def Supported (g : Graph) : List Nat → Prop
  | [] => True
  | n :: rest => (∀ s, g.Edge s n → s ∈ rest) ∧ g.Supported rest

/-- What holds before and after every step. -/
structure Invariant (g : Graph) (p : Progress) : Prop where
  waiting_eq : p.waiting = (List.range g.size).map (g.missing p.done)
  ready_sorted : p.ready.Pairwise (· < ·)
  mem_ready : ∀ n, n ∈ p.ready ↔ n < g.size ∧ n ∉ p.done ∧ g.missing p.done n = 0
  done_nodup : p.done.Nodup
  done_lt : ∀ n ∈ p.done, n < g.size
  supported : g.Supported p.done

/-! ## Inserting into the ready nodes -/

@[simp] theorem mem_insertAscending (n m : Nat) (l : List Nat) :
    m ∈ insertAscending n l ↔ m = n ∨ m ∈ l := by
  induction l with
  | nil => simp [insertAscending]
  | cons k l ih =>
    by_cases h : n ≤ k
    · simp [insertAscending, h]
    · simp only [insertAscending, h, if_false, List.mem_cons, ih]
      exact or_left_comm

theorem pairwise_insertAscending {n : Nat} {l : List Nat} (hl : l.Pairwise (· < ·)) (hn : n ∉ l) :
    (insertAscending n l).Pairwise (· < ·) := by
  induction l with
  | nil => simp [insertAscending]
  | cons k l ih =>
    obtain ⟨hk, hl⟩ := List.pairwise_cons.mp hl
    obtain ⟨hnk, hn⟩ := List.ne_and_not_mem_of_not_mem_cons hn
    by_cases h : n ≤ k
    · have hlt : n < k := by omega
      simp only [insertAscending, h, if_true, List.pairwise_cons, List.forall_mem_cons]
      exact ⟨⟨hlt, fun m hm => hlt.trans (hk m hm)⟩, hk, hl⟩
    · simp only [insertAscending, h, if_false, List.pairwise_cons, mem_insertAscending]
      refine ⟨?_, ih hl hn⟩
      rintro m (rfl | hm)
      · omega
      · exact hk m hm

/-! ## Releasing the successors of a node -/

@[simp] theorem done_release (p : Progress) (n : Nat) : (release p n).done = p.done := rfl

theorem getElem?_waiting_release (p : Progress) (n m : Nat) :
    (release p n).waiting[m]? = p.waiting[m]?.map fun k => if m = n then k - 1 else k := by
  by_cases h : m = n
  · subst h; simp [release]
  · simp [release, h, Ne.symm h]

/-- The released node becomes ready if it waited for one predecessor at most. -/
theorem mem_ready_release (p : Progress) (n m : Nat) :
    m ∈ (release p n).ready ↔ m ∈ p.ready ∨ m = n ∧ ∃ k ≤ 1, p.waiting[n]? = some k := by
  have hw : (p.waiting.modify n (· - 1))[n]? = some 0 ↔ ∃ k ≤ 1, p.waiting[n]? = some k := by
    cases hn : p.waiting[n]? with
    | none => simp [hn]
    | some k => simp [hn, Nat.sub_eq_zero_iff_le]
  simp only [release, hw]
  by_cases h : ∃ k ≤ 1, p.waiting[n]? = some k
  · simp only [h, if_true, mem_insertAscending, and_true]
    exact or_comm
  · simp only [h, if_false, and_false, or_false]

theorem pairwise_ready_release {n : Nat} (hp : p.ready.Pairwise (· < ·)) (hn : n ∉ p.ready) :
    (release p n).ready.Pairwise (· < ·) := by
  simp only [release]
  split
  · exact pairwise_insertAscending hp hn
  · exact hp

@[simp] theorem done_foldl_release (p : Progress) (ms : List Nat) :
    (ms.foldl release p).done = p.done := by
  induction ms generalizing p with
  | nil => rfl
  | cons n ms ih => rw [List.foldl_cons, ih, done_release]

theorem getElem?_waiting_foldl_release {ms : List Nat} (hms : ms.Nodup) (p : Progress) (m : Nat) :
    (ms.foldl release p).waiting[m]? =
      p.waiting[m]?.map fun k => if m ∈ ms then k - 1 else k := by
  induction ms generalizing p with
  | nil => simp
  | cons n ms ih =>
    obtain ⟨hn, hms⟩ := List.nodup_cons.mp hms
    rw [List.foldl_cons, ih hms, getElem?_waiting_release, Option.map_map]
    congr 1
    funext k
    by_cases h : m = n
    · subst h; simp [hn]
    · simp [h]

theorem mem_ready_foldl_release {ms : List Nat} (hms : ms.Nodup) (p : Progress) (m : Nat) :
    m ∈ (ms.foldl release p).ready ↔
      m ∈ p.ready ∨ m ∈ ms ∧ ∃ k ≤ 1, p.waiting[m]? = some k := by
  induction ms generalizing p with
  | nil => simp
  | cons n ms ih =>
    obtain ⟨hn, hms⟩ := List.nodup_cons.mp hms
    rw [List.foldl_cons, ih hms, mem_ready_release, getElem?_waiting_release]
    by_cases h : m = n
    · subst h; simp [hn]
    · simp [h]

theorem pairwise_ready_foldl_release {ms : List Nat} (hms : ms.Nodup)
    (hp : p.ready.Pairwise (· < ·)) (hnew : ∀ m ∈ ms, m ∉ p.ready) :
    (ms.foldl release p).ready.Pairwise (· < ·) := by
  induction ms generalizing p with
  | nil => exact hp
  | cons n ms ih =>
    obtain ⟨hn, hms⟩ := List.nodup_cons.mp hms
    rw [List.foldl_cons]
    apply ih hms (pairwise_ready_release hp (hnew n List.mem_cons_self))
    intro m hm
    have hmn : m ≠ n := fun h => hn (h ▸ hm)
    rw [mem_ready_release]
    simp [hmn, hnew m (List.mem_cons_of_mem n hm)]

/-! ## Predecessors and successors -/

@[simp] theorem mem_successors (g : Graph) (s t : Nat) : t ∈ g.successors s ↔ g.Edge s t := by
  simp [successors, Edge]

theorem WellFormed.nodup_successors (hg : g.WellFormed) (n : Nat) : (g.successors n).Nodup := by
  refine List.Nodup.map_on ?_ (hg.nodup.filter _)
  intro e he f hf heq
  simp only [List.mem_filter, beq_iff_eq] at he hf
  exact Prod.ext (he.2.trans hf.2.symm) heq

/-- The order in which edges are listed does not matter. -/
theorem WellFormed.of_perm {g' : Graph} (hg : g.WellFormed) (hsize : g'.size = g.size)
    (hedges : g'.edges.Perm g.edges) : g'.WellFormed where
  nodup := hedges.nodup_iff.mpr hg.nodup
  bounded s t e := hsize ▸ hg.bounded s t (hedges.mem_iff.mp e)

/-- What is missing for a node loses its edge from the node that is done next. -/
theorem missing_cons (hg : g.WellFormed) {done : List Nat} {n : Nat} (hn : n ∉ done) (m : Nat) :
    g.missing done m = g.missing (n :: done) m + if m ∈ g.successors n then 1 else 0 := by
  have hsplit : ∀ es : List (Nat × Nat), es.countP (fun e => e.2 == m && !done.contains e.1) =
      es.countP (fun e => e.2 == m && !(n :: done).contains e.1) + es.count (n, m) := by
    intro es
    induction es with
    | nil => rfl
    | cons e es ih =>
      obtain ⟨s, t⟩ := e
      rw [List.countP_cons, List.countP_cons, List.count_cons, ih]
      by_cases hs : s = n
      · subst hs
        by_cases ht : t = m <;> simp [hn, ht]
        omega
      · simp [hs]
        omega
  rw [missing, missing, hsplit, hg.nodup.count]
  simp only [mem_successors, Edge]

/-- Nothing is missing for a node exactly if all its predecessors are done. -/
theorem missing_eq_zero_iff {done : List Nat} {n : Nat} :
    g.missing done n = 0 ↔ ∀ s, g.Edge s n → s ∈ done := by
  simp only [missing, List.countP_eq_zero, Bool.and_eq_true, beq_iff_eq, Bool.not_eq_true',
    List.contains_eq_mem, decide_eq_false_iff_not, not_and, not_not, Edge]
  constructor
  · intro h s hs
    exact h (s, n) hs rfl
  · rintro h ⟨s, t⟩ he rfl
    exact h s he

/-- The predecessors of what is done are done. -/
theorem Supported.mem_of_edge {l : List Nat} (hl : g.Supported l) {s t : Nat} (ht : t ∈ l)
    (e : g.Edge s t) : s ∈ l := by
  induction l with
  | nil => cases ht
  | cons n rest ih =>
    rcases List.mem_cons.mp ht with rfl | ht
    · exact List.mem_cons_of_mem _ (hl.1 s e)
    · exact List.mem_cons_of_mem _ (ih hl.2 ht)

/-- Read from its end, the list has the predecessors of a node before the node. -/
theorem Supported.mem_take_reverse {l : List Nat} (hl : g.Supported l) {s t j : Nat}
    (ht : l.reverse[j]? = some t) (e : g.Edge s t) : s ∈ l.reverse.take j := by
  induction l with
  | nil => simp at ht
  | cons n rest ih =>
    rw [List.reverse_cons] at ht ⊢
    have hj : j < rest.reverse.length + 1 := by
      simpa using (List.getElem?_eq_some_iff.mp ht).1
    by_cases hlast : j < rest.reverse.length
    · rw [List.getElem?_append_left hlast] at ht
      rw [List.take_append_of_le_length hlast.le]
      exact ih hl.2 ht
    · have hj : j = rest.reverse.length := by omega
      subst hj
      have hn : n = t := by simpa using ht
      subst hn
      simpa using hl.1 s e

/-! ## Runs -/

theorem invariant_start (g : Graph) : g.Invariant g.start where
  waiting_eq := by simp [start, missing, inDegree]
  ready_sorted := by
    simp only [start]
    exact (List.pairwise_lt_range).filter _
  mem_ready n := by simp [start, missing, inDegree]
  done_nodup := List.nodup_nil
  done_lt n hn := by cases hn
  supported := trivial

/-! ### A step that takes a node -/

section Step

variable {n m : Nat} {rest : List Nat}

/-- A step does the first ready node and releases its successors. -/
theorem step_eq_foldl_release (hready : p.ready = n :: rest) :
    g.step p = (g.successors n).foldl release ⟨p.waiting, rest, n :: p.done⟩ := by
  rw [step, hready]

theorem done_step (hready : p.ready = n :: rest) : (g.step p).done = n :: p.done := by
  rw [step_eq_foldl_release hready, done_foldl_release]

/-- A node waits for its predecessors, those that are not done. -/
theorem Invariant.getElem?_waiting (hp : g.Invariant p) (hm : m < g.size) :
    p.waiting[m]? = some (g.missing p.done m) := by
  simp [hp.waiting_eq, hm]

/-- A successor of a ready node is not done, and it is another node: until now it has waited for the
ready one. -/
theorem Invariant.not_mem_done_of_edge (hp : g.Invariant p) (hready : p.ready = n :: rest)
    (e : g.Edge n m) : m ∉ n :: p.done := by
  obtain ⟨_, hn, hzero⟩ := (hp.mem_ready n).mp (hready ▸ List.mem_cons_self)
  intro hm
  rcases List.mem_cons.mp hm with rfl | hm
  · exact hn (missing_eq_zero_iff.mp hzero m e)
  · exact hn (hp.supported.mem_of_edge hm e)

/-- A node is not ready before its predecessors are done. -/
theorem Invariant.not_mem_ready_of_edge (hp : g.Invariant p) (hn : n ∉ p.done) (e : g.Edge n m) :
    m ∉ p.ready := by
  intro hm
  obtain ⟨_, _, hzero⟩ := (hp.mem_ready m).mp hm
  exact hn (missing_eq_zero_iff.mp hzero n e)

/-- The successors of the node that a step does are counted down once. -/
theorem Invariant.waiting_step (hg : g.WellFormed) (hp : g.Invariant p)
    (hready : p.ready = n :: rest) :
    (g.step p).waiting = (List.range g.size).map (g.missing (g.step p).done) := by
  obtain ⟨_, hn, _⟩ := (hp.mem_ready n).mp (hready ▸ List.mem_cons_self)
  rw [done_step hready, step_eq_foldl_release hready]
  apply List.ext_getElem?
  intro m
  rw [getElem?_waiting_foldl_release (hg.nodup_successors n)]
  by_cases hm : m < g.size
  · rw [hp.getElem?_waiting hm, missing_cons hg hn m]
    by_cases hs : m ∈ g.successors n <;> simp [hm, hs]
  · simp [hp.waiting_eq, hm]

/-- A successor of the node that a step does becomes ready if that was its last predecessor. -/
theorem Invariant.mem_ready_step (hg : g.WellFormed) (hp : g.Invariant p)
    (hready : p.ready = n :: rest) (m : Nat) :
    m ∈ (g.step p).ready ↔
      m < g.size ∧ m ∉ (g.step p).done ∧ g.missing (g.step p).done m = 0 := by
  have hsorted := hp.ready_sorted
  rw [hready] at hsorted
  have hfirst := (List.pairwise_cons.mp hsorted).1
  obtain ⟨_, hn, _⟩ := (hp.mem_ready n).mp (hready ▸ List.mem_cons_self)
  have hmissing := missing_cons hg hn m
  rw [done_step hready, step_eq_foldl_release hready,
    mem_ready_foldl_release (hg.nodup_successors n)]
  constructor
  · rintro (hm | ⟨hm, k, hk, hw⟩)
    · obtain ⟨hlt, hdone, hzero⟩ := (hp.mem_ready m).mp (hready ▸ List.mem_cons_of_mem n hm)
      have hmn : m ≠ n := (hfirst m hm).ne'
      exact ⟨hlt, by simp [hmn, hdone], by omega⟩
    · have e := (mem_successors g n m).mp hm
      have hlt := (hg.bounded n m e).2
      rw [hp.getElem?_waiting hlt, Option.some.injEq] at hw
      rw [if_pos hm] at hmissing
      exact ⟨hlt, hp.not_mem_done_of_edge hready e, by omega⟩
  · rintro ⟨hlt, hdone, hzero⟩
    obtain ⟨hmn, hdone⟩ := List.ne_and_not_mem_of_not_mem_cons hdone
    by_cases hs : m ∈ g.successors n
    · rw [if_pos hs] at hmissing
      exact .inr ⟨hs, _, by omega, hp.getElem?_waiting hlt⟩
    · rw [if_neg hs] at hmissing
      have hmem : m ∈ p.ready := (hp.mem_ready m).mpr ⟨hlt, hdone, by omega⟩
      rw [hready] at hmem
      exact .inl ((List.mem_cons.mp hmem).resolve_left hmn)

/-- A step does the first ready node. What waits for it is counted down once, and becomes ready if
that was its last predecessor. -/
theorem Invariant.step (hg : g.WellFormed) (hp : g.Invariant p) : g.Invariant (g.step p) := by
  cases hready : p.ready with
  | nil => rwa [Graph.step, hready]
  | cons n rest =>
    obtain ⟨hlt, hn, hzero⟩ := (hp.mem_ready n).mp (hready ▸ List.mem_cons_self)
    have hdone := done_step (g := g) hready
    exact {
      waiting_eq := hp.waiting_step hg hready
      ready_sorted := by
        have hsorted := hp.ready_sorted
        rw [hready] at hsorted
        rw [step_eq_foldl_release hready]
        apply pairwise_ready_foldl_release (hg.nodup_successors n) hsorted.of_cons
        intro m hm hrest
        have e := (mem_successors g n m).mp hm
        exact hp.not_mem_ready_of_edge hn e (hready ▸ List.mem_cons_of_mem n hrest)
      mem_ready := hp.mem_ready_step hg hready
      done_nodup := hdone ▸ List.nodup_cons.mpr ⟨hn, hp.done_nodup⟩
      done_lt := hdone ▸ List.forall_mem_cons.mpr ⟨hlt, hp.done_lt⟩
      supported := hdone ▸ ⟨missing_eq_zero_iff.mp hzero, hp.supported⟩ }

end Step

/-! ### The whole run -/

theorem invariant_progress (hg : g.WellFormed) (k : Nat) : g.Invariant (g.progress k) := by
  induction k with
  | zero => exact invariant_start g
  | succ k ih => exact ih.step hg

/-- A run does one node in every step until none is ready. -/
theorem ready_progress_or_length_done (g : Graph) (k : Nat) :
    (g.progress k).ready = [] ∨ (g.progress k).done.length = k := by
  induction k with
  | zero => exact Or.inr rfl
  | succ k ih =>
    cases hready : (g.progress k).ready with
    | nil => left; simp [progress, Graph.step, hready]
    | cons n ready =>
      right
      rw [hready] at ih
      simpa [progress, Graph.step, hready] using ih

/-- A list of different nodes is at most as long as the graph is large, and if it is as long it has
all nodes. -/
theorem Invariant.mem_done_of_length (hp : g.Invariant p) (hlen : p.done.length = g.size) {n : Nat}
    (hn : n < g.size) : n ∈ p.done := by
  have hsub : p.done ⊆ List.range g.size := fun m hm => List.mem_range.mpr (hp.done_lt m hm)
  have hperm : p.done.Perm (List.range g.size) :=
    (hp.done_nodup.subperm hsub).perm_of_length_le (by simp [hlen])
  exact hperm.mem_iff.mpr (List.mem_range.mpr hn)

/-- After as many steps as there are nodes none is ready. -/
theorem ready_progress_size (hg : g.WellFormed) : (g.progress g.size).ready = [] := by
  have hp := invariant_progress hg g.size
  rcases ready_progress_or_length_done g g.size with hready | hlen
  · exact hready
  · apply List.eq_nil_iff_forall_not_mem.mpr
    intro n hn
    obtain ⟨hlt, hnot, _⟩ := (hp.mem_ready n).mp hn
    exact hnot (hp.mem_done_of_length hlen hlt)

/-- When none is ready, a node that is left has a predecessor that is left. -/
theorem Invariant.exists_pred_of_stalled (hg : g.WellFormed) (hp : g.Invariant p)
    (hready : p.ready = []) {n : Nat} (hlt : n < g.size) (hn : n ∉ p.done) :
    ∃ s, g.Edge s n ∧ s < g.size ∧ s ∉ p.done := by
  have hmissing : g.missing p.done n ≠ 0 := by
    intro hzero
    have hmem := (hp.mem_ready n).mpr ⟨hlt, hn, hzero⟩
    rw [hready] at hmem
    cases hmem
  rw [Ne, missing_eq_zero_iff] at hmissing
  push Not at hmissing
  obtain ⟨s, e, hs⟩ := hmissing
  exact ⟨s, e, (hg.bounded s n e).1, hs⟩

/-! ## The order -/

theorem nodup_order (hg : g.WellFormed) : g.order.Nodup :=
  List.nodup_reverse.mpr (invariant_progress hg g.size).done_nodup

theorem lt_of_mem_order (hg : g.WellFormed) {n : Nat} (hn : n ∈ g.order) : n < g.size :=
  (invariant_progress hg g.size).done_lt n (List.mem_reverse.mp hn)

theorem length_order_le (hg : g.WellFormed) : g.order.length ≤ g.size := by
  have hsub : g.order ⊆ List.range g.size := fun n hn => List.mem_range.mpr (lt_of_mem_order hg hn)
  simpa using ((nodup_order hg).subperm hsub).length_le

theorem order_perm_range (hg : g.WellFormed) (hlen : g.order.length = g.size) :
    g.order.Perm (List.range g.size) := by
  have hsub : g.order ⊆ List.range g.size := fun n hn => List.mem_range.mpr (lt_of_mem_order hg hn)
  exact ((nodup_order hg).subperm hsub).perm_of_length_le (by simp [hlen])

/-- A predecessor stands before the node. -/
theorem idxOf_lt_idxOf_of_edge (hg : g.WellFormed) {s t : Nat} (e : g.Edge s t)
    (ht : t ∈ g.order) : g.order.idxOf s < g.order.idxOf t := by
  have hp := invariant_progress hg g.size
  have hs : s ∈ g.order :=
    List.mem_reverse.mpr (hp.supported.mem_of_edge (List.mem_reverse.mp ht) e)
  have hmem := hp.supported.mem_take_reverse (List.getElem?_idxOf ht) e
  exact (List.mem_take_iff_idxOf_lt hs).mp hmem

/-- All nodes get a place in the order exactly if the graph has no cycle. -/
theorem length_order_eq_iff (hg : g.WellFormed) : g.order.length = g.size ↔ g.Acyclic := by
  constructor
  · intro hlen n hcycle
    have hmem : ∀ m, m < g.size → m ∈ g.order := fun m hm =>
      (order_perm_range hg hlen).mem_iff.mpr (List.mem_range.mpr hm)
    -- The place in the order is a rank that every edge raises.
    have hrank : ∀ s t, Relation.TransGen g.Edge s t → g.order.idxOf s < g.order.idxOf t := by
      intro s t hpath
      induction hpath with
      | single e => exact idxOf_lt_idxOf_of_edge hg e (hmem _ (hg.bounded _ _ e).2)
      | tail _ e ih => exact ih.trans (idxOf_lt_idxOf_of_edge hg e (hmem _ (hg.bounded _ _ e).2))
    exact (hrank n n hcycle).false
  · intro hacyclic
    have hp := invariant_progress hg g.size
    have hready := ready_progress_size hg
    have : IsStrictOrder Nat (Relation.TransGen g.Edge) :=
      { irrefl := hacyclic, trans := fun _ _ _ => Relation.TransGen.trans }
    have hwf : (Set.Iio g.size).WellFoundedOn (Relation.TransGen g.Edge) :=
      (Set.finite_Iio g.size).wellFoundedOn
    -- A node is done once all its predecessors are, so by induction along the edges all are.
    have hdone : ∀ n ∈ Set.Iio g.size, n ∈ (g.progress g.size).done := by
      intro n hn
      refine hwf.induction (P := fun n => n ∈ (g.progress g.size).done) hn fun m hm ih => ?_
      by_contra hleft
      obtain ⟨s, e, hs, hsleft⟩ := hp.exists_pred_of_stalled hg hready hm hleft
      exact hsleft (ih s hs (Relation.TransGen.single e))
    have hsub : List.range g.size ⊆ g.order := fun n hn =>
      List.mem_reverse.mpr (hdone n (List.mem_range.mp hn))
    have hle : g.size ≤ g.order.length := by
      simpa using (List.nodup_range.subperm hsub).length_le
    exact Nat.le_antisymm (length_order_le hg) hle

end SchemaSdk.Schema.Graph
