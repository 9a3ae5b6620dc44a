import Mathlib.Data.List.Permutation
import Mathlib.Data.List.Sort
import SchemaSdk.Proofs.Order.Topological

/-!
# Models that depend on each other

The search from a node finds what a path leads to, so two nodes share a group exactly if each leads
to the other. Of the cyclic groups, sorted as they are, the first is the group of the first node on
a cycle. How the groups and the nodes in them are listed before they are sorted does not matter.
A collection without an order so has an error that names the models in the group of the first model
that depends on itself.
-/
namespace SchemaSdk.Schema.Graph

open Relation (TransGen ReflTransGen)

variable {g : Graph}

/-! ## Searching -/

/-- How many edges lead from nodes that are not seen. -/
def unseenEdges (g : Graph) (seen : List Nat) : Nat :=
  g.edges.countP fun e => !seen.contains e.1

/-- Seeing a node takes its edges off those that lead from unseen nodes. -/
theorem unseenEdges_cons {seen : List Nat} {n : Nat} (hn : n ∉ seen) :
    g.unseenEdges (n :: seen) + (g.successors n).length = g.unseenEdges seen := by
  have hsplit : ∀ es : List (Nat × Nat),
      es.countP (fun e => !(n :: seen).contains e.1) + (es.filter (·.1 == n)).length =
        es.countP (fun e => !seen.contains e.1) := by
    intro es
    induction es with
    | nil => rfl
    | cons e es ih =>
      obtain ⟨s, t⟩ := e
      by_cases hs : s = n
      · subst hs
        simp [hn] at ih ⊢
        omega
      · by_cases hseen : s ∈ seen
        · simpa [hs, hseen] using ih
        · simp [hs, hseen] at ih ⊢
          omega
  rw [unseenEdges, unseenEdges, successors, List.length_map, hsplit]

/-- What is found was seen before, or a path leads to it from a node that was to be looked at. -/
theorem exists_path_of_mem_reachedFrom {fuel : Nat} {seen waiting : List Nat} {m : Nat}
    (h : m ∈ g.reachedFrom fuel seen waiting) :
    m ∈ seen ∨ ∃ n ∈ waiting, ReflTransGen g.Edge n m := by
  fun_induction reachedFrom g fuel seen waiting with
  | case1 _ seen => exact .inl h
  | case2 seen waiting => exact .inl h
  | case3 fuel seen n rest hseen ih =>
    rcases ih h with hm | ⟨k, hk, hpath⟩
    · exact .inl hm
    · exact .inr ⟨k, List.mem_cons_of_mem n hk, hpath⟩
  | case4 fuel seen n rest hseen ih =>
    rcases ih h with hm | ⟨k, hk, hpath⟩
    · rcases List.mem_cons.mp hm with rfl | hm
      · exact .inr ⟨m, List.mem_cons_self, .refl⟩
      · exact .inl hm
    · rcases List.mem_append.mp hk with hk | hk
      · exact .inr ⟨n, List.mem_cons_self, .head ((mem_successors g n k).mp hk) hpath⟩
      · exact .inr ⟨k, List.mem_cons_of_mem n hk, hpath⟩

/-- Edges from what was seen lead to nothing but what was seen or waits to be looked at. -/
def Frontier (g : Graph) (seen waiting : List Nat) : Prop :=
  ∀ s ∈ seen, ∀ t, g.Edge s t → t ∈ seen ∨ t ∈ waiting

/-- A node that was seen need not wait. -/
theorem Frontier.drop {seen rest : List Nat} {n : Nat} (h : g.Frontier seen (n :: rest))
    (hn : n ∈ seen) : g.Frontier seen rest := by
  intro s hs t e
  rcases h s hs t e with ht | ht
  · exact .inl ht
  · rcases List.mem_cons.mp ht with rfl | ht
    · exact .inl hn
    · exact .inr ht

/-- A node is seen while its successors wait. -/
theorem Frontier.visit {seen rest : List Nat} {n : Nat} (h : g.Frontier seen (n :: rest)) :
    g.Frontier (n :: seen) (g.successors n ++ rest) := by
  intro s hs t e
  rcases List.mem_cons.mp hs with rfl | hs
  · exact .inr (List.mem_append_left _ ((mem_successors g s t).mpr e))
  · rcases h s hs t e with ht | ht
    · exact .inl (List.mem_cons_of_mem n ht)
    · rcases List.mem_cons.mp ht with rfl | ht
      · exact .inl List.mem_cons_self
      · exact .inr (List.mem_append_right _ ht)

/-- A search with enough fuel finds what was to be looked at, and all that edges lead to from what
it finds. -/
theorem closed_reachedFrom {fuel : Nat} {seen waiting : List Nat}
    (hfuel : waiting.length + g.unseenEdges seen ≤ fuel) (hseen : g.Frontier seen waiting) :
    (∀ n, n ∈ seen ∨ n ∈ waiting → n ∈ g.reachedFrom fuel seen waiting) ∧
      ∀ s ∈ g.reachedFrom fuel seen waiting, ∀ t, g.Edge s t →
        t ∈ g.reachedFrom fuel seen waiting := by
  fun_induction reachedFrom g fuel seen waiting with
  | case1 _ seen => simpa [Frontier] using hseen
  | case2 seen waiting hwaiting =>
    cases waiting with
    | nil => exact absurd rfl hwaiting
    | cons n rest => simp at hfuel
  | case3 fuel seen n rest hn ih =>
    have hmem : n ∈ seen := by simpa using hn
    obtain ⟨hfound, hclosed⟩ :=
      ih (by simp only [List.length_cons] at hfuel; omega) (hseen.drop hmem)
    refine ⟨fun k hk => hfound k ?_, hclosed⟩
    rcases hk with hk | hk
    · exact .inl hk
    · rcases List.mem_cons.mp hk with rfl | hk
      · exact .inl hmem
      · exact .inr hk
  | case4 fuel seen n rest hn ih =>
    have hedges := unseenEdges_cons (g := g) (show n ∉ seen by simpa using hn)
    obtain ⟨hfound, hclosed⟩ :=
      ih (by simp only [List.length_append, List.length_cons] at hfuel ⊢; omega) hseen.visit
    refine ⟨fun k hk => hfound k ?_, hclosed⟩
    rcases hk with hk | hk
    · exact .inl (List.mem_cons_of_mem n hk)
    · rcases List.mem_cons.mp hk with rfl | hk
      · exact .inl List.mem_cons_self
      · exact .inr (List.mem_append_right _ hk)

/-- The descendants of a node are the nodes that a path of one edge or more leads to. -/
theorem mem_descendants {n m : Nat} : m ∈ g.descendants n ↔ TransGen g.Edge n m := by
  constructor
  · intro h
    rcases exists_path_of_mem_reachedFrom h with hm | ⟨k, hk, hpath⟩
    · cases hm
    · exact .head' ((mem_successors g n k).mp hk) hpath
  · intro h
    have hsuccessors : (g.successors n).length ≤ g.edges.length := by
      rw [successors, List.length_map]
      exact List.length_filter_le _ _
    have hunseen : g.unseenEdges [] ≤ g.edges.length := List.countP_le_length
    have hfuel : (g.successors n).length + g.unseenEdges [] ≤ 2 * g.edges.length := by omega
    obtain ⟨hfound, hclosed⟩ := closed_reachedFrom hfuel (by simp [Frontier])
    induction h with
    | single e => exact hfound _ (.inr ((mem_successors g n _).mpr e))
    | tail _ e ih => exact hclosed _ ih _ e

/-! ## Groups -/

/-- Paths lead from each of the nodes to the other; none is needed from a node to itself. -/
def Joined (g : Graph) (m n : Nat) : Prop := ReflTransGen g.Edge m n ∧ ReflTransGen g.Edge n m

theorem Joined.refl (g : Graph) (n : Nat) : g.Joined n n := ⟨.refl, .refl⟩

theorem Joined.symm {m n : Nat} (h : g.Joined m n) : g.Joined n m := ⟨h.2, h.1⟩

theorem Joined.trans {m n k : Nat} (h : g.Joined m n) (h' : g.Joined n k) : g.Joined m k :=
  ⟨h.1.trans h'.1, h'.2.trans h.2⟩

theorem joined_iff {m n : Nat} :
    g.Joined m n ↔ n = m ∨ TransGen g.Edge m n ∧ TransGen g.Edge n m := by
  constructor
  · rintro ⟨hmn, hnm⟩
    rcases Relation.reflTransGen_iff_eq_or_transGen.mp hmn with rfl | hmn
    · exact .inl rfl
    · rcases Relation.reflTransGen_iff_eq_or_transGen.mp hnm with rfl | hnm
      · exact .inl rfl
      · exact .inr ⟨hmn, hnm⟩
  · rintro (rfl | ⟨hmn, hnm⟩)
    · exact .refl g n
    · exact ⟨hmn.to_reflTransGen, hnm.to_reflTransGen⟩

/-- A node is joined to one on a cycle exactly if paths of one edge or more lead to it and back. -/
theorem joined_iff_of_cycle {m n : Nat} (hcycle : TransGen g.Edge m m) :
    g.Joined m n ↔ TransGen g.Edge m n ∧ TransGen g.Edge n m := by
  rw [joined_iff]
  constructor
  · rintro (rfl | h)
    · exact ⟨hcycle, hcycle⟩
    · exact h
  · exact .inr

/-- Lists of nodes, in whatever order, that are the strongly connected groups of the graph. -/
structure IsGrouping (g : Graph) (groups : List (List Nat)) : Prop where
  covers : ∀ n < g.size, ∃ s ∈ groups, n ∈ s
  nonempty : ∀ s ∈ groups, s ≠ []
  nodup : ∀ s ∈ groups, s.Nodup
  joined : ∀ s ∈ groups, ∀ n ∈ s, ∀ m, m ∈ s ↔ m < g.size ∧ g.Joined n m

theorem mem_groups {s : List Nat} : s ∈ g.groups ↔ ∃ n < g.size, s =
    (List.range g.size).filter fun m => m == n ||
      (g.descendants n).contains m && (g.descendants m).contains n := by
  have hafter : ∀ k < g.size,
      ((List.range g.size).map g.descendants).getD k [] = g.descendants k := by
    intro k hk
    simp [List.getD_eq_getElem?_getD, hk]
  simp only [groups, List.mem_eraseDups, List.mem_map, List.mem_range]
  refine exists_congr fun n => and_congr_right fun hn => ?_
  rw [eq_comm]
  refine Eq.congr_right (List.filter_congr fun m hm => ?_)
  rw [hafter n hn, hafter m (List.mem_range.mp hm)]

theorem isGrouping_groups (g : Graph) : g.IsGrouping g.groups := by
  have hmem : ∀ n m, m ∈ (List.range g.size).filter (fun m => m == n ||
      (g.descendants n).contains m && (g.descendants m).contains n) ↔
        m < g.size ∧ g.Joined n m := by
    intro n m
    simp [joined_iff, mem_descendants]
  refine ⟨?_, ?_, ?_, ?_⟩
  · intro n hn
    exact ⟨_, mem_groups.mpr ⟨n, hn, rfl⟩, (hmem n n).mpr ⟨hn, .refl g n⟩⟩
  · intro s hs
    obtain ⟨n, hn, rfl⟩ := mem_groups.mp hs
    exact List.ne_nil_of_mem ((hmem n n).mpr ⟨hn, .refl g n⟩)
  · intro s hs
    obtain ⟨n, hn, rfl⟩ := mem_groups.mp hs
    exact List.nodup_range.filter _
  · intro s hs k hk m
    obtain ⟨n, hn, rfl⟩ := mem_groups.mp hs
    obtain ⟨_, hnk⟩ := (hmem n k).mp hk
    rw [hmem]
    exact and_congr_right fun _ => ⟨hnk.symm.trans, hnk.trans⟩

/-- A group is cyclic exactly if its nodes lie on cycles. -/
theorem IsGrouping.isCyclic_iff (hg : g.WellFormed) {groups : List (List Nat)}
    (h : g.IsGrouping groups) {s : List Nat} (hs : s ∈ groups) {n : Nat} (hn : n ∈ s) :
    g.isCyclic s = true ↔ TransGen g.Edge n n := by
  match s with
  | [] => cases hn
  | [k] =>
    obtain rfl := List.mem_singleton.mp hn
    rw [isCyclic, List.contains_iff_mem]
    constructor
    · intro e
      exact .single e
    · intro hcycle
      obtain ⟨m, e, hpath⟩ := TransGen.head'_iff.mp hcycle
      have hm : m ∈ [n] := (h.joined _ hs n hn m).mpr
        ⟨(hg.bounded n m e).2, .single e, hpath⟩
      obtain rfl := List.mem_singleton.mp hm
      exact e
  | a :: b :: rest =>
    simp only [isCyclic, true_iff]
    -- Of two different nodes one is not the node in question, and it leads there and back.
    have hother : ∃ m ∈ a :: b :: rest, m ≠ n := by
      by_cases ha : a = n
      · have hab : a ≠ b := by
          have hnodup := h.nodup _ hs
          simp only [List.nodup_cons, List.mem_cons, not_or] at hnodup
          exact hnodup.1.1
        exact ⟨b, by simp, fun hb => hab (ha.trans hb.symm)⟩
      · exact ⟨a, by simp, ha⟩
    obtain ⟨m, hm, hne⟩ := hother
    obtain ⟨_, hjoined⟩ := (h.joined _ hs n hn m).mp hm
    rcases joined_iff.mp hjoined with heq | ⟨hto, hback⟩
    · exact absurd heq hne
    · exact hto.trans hback

/-! ## The first group -/

theorem mem_ascending {s : List Nat} {n : Nat} : n ∈ ascending s ↔ n ∈ s := List.mem_mergeSort

theorem pairwise_ascending {s : List Nat} (hs : s.Nodup) : (ascending s).Pairwise (· < ·) := by
  have hsorted : (ascending s).Pairwise fun m n => decide (m ≤ n) = true :=
    List.pairwise_mergeSort (by simp only [decide_eq_true_eq]; omega) (by simp; omega) s
  have hnodup : (ascending s).Nodup := (List.mergeSort_perm _ _).nodup_iff.mpr hs
  refine hsorted.imp₂ (fun m n hle hne => ?_) hnodup
  have hle := of_decide_eq_true hle
  omega

/-- The first in ascending order is the least. -/
theorem le_of_ascending_eq_cons {s as : List Nat} {a n : Nat} (hs : s.Nodup)
    (h : ascending s = a :: as) (hn : n ∈ s) : a ≤ n := by
  have hpairwise := h ▸ pairwise_ascending hs
  have hmem : n ∈ a :: as := h ▸ mem_ascending.mpr hn
  rcases List.mem_cons.mp hmem with rfl | hmem
  · exact le_rfl
  · exact ((List.pairwise_cons.mp hpairwise).1 n hmem).le

/-- A cyclic group in ascending order starts with a node on a cycle. -/
theorem IsGrouping.exists_ascending_eq_cons (hg : g.WellFormed) {groups : List (List Nat)}
    (h : g.IsGrouping groups) {s : List Nat} (hs : s ∈ groups) (hcyclic : g.isCyclic s = true) :
    ∃ a as, ascending s = a :: as ∧ a ∈ s ∧ TransGen g.Edge a a := by
  cases hsorted : ascending s with
  | nil =>
    obtain ⟨n, hn⟩ := List.exists_mem_of_ne_nil s (h.nonempty s hs)
    have hmem := mem_ascending.mpr hn
    rw [hsorted] at hmem
    cases hmem
  | cons a as =>
    have ha : a ∈ s := mem_ascending.mp (hsorted ▸ List.mem_cons_self)
    exact ⟨a, as, rfl, ha, (h.isCyclic_iff hg hs ha).mp hcyclic⟩

theorem precedes_trans {a b c : List Nat} (hab : precedes a b = true) (hbc : precedes b c = true) :
    precedes a c = true := by
  induction a generalizing b c with
  | nil => rfl
  | cons x a ih =>
    match b, c with
    | [], _ => cases hab
    | _ :: _, [] => cases hbc
    | y :: b, z :: c =>
      simp only [precedes, Bool.or_eq_true, Bool.and_eq_true, decide_eq_true_eq, beq_iff_eq]
        at hab hbc ⊢
      rcases hab with hxy | ⟨rfl, hab⟩
      · exact .inl (by omega)
      · rcases hbc with hyz | ⟨rfl, hbc⟩
        · exact .inl hyz
        · exact .inr ⟨rfl, ih hab hbc⟩

theorem precedes_total (a b : List Nat) : (precedes a b || precedes b a) = true := by
  induction a generalizing b with
  | nil => rfl
  | cons x a ih =>
    cases b with
    | nil => rfl
    | cons y b =>
      have hrest := ih b
      simp only [precedes, Bool.or_eq_true, Bool.and_eq_true, decide_eq_true_eq, beq_iff_eq]
        at hrest ⊢
      rcases Nat.lt_trichotomy x y with hxy | rfl | hyx
      · exact .inl (.inl hxy)
      · rcases hrest with hab | hba
        · exact .inl (.inr ⟨rfl, hab⟩)
        · exact .inr (.inr ⟨rfl, hba⟩)
      · exact .inr (.inl hyx)

/-- What precedes a list starts with no greater node. -/
theorem le_of_precedes {a b : Nat} {as bs : List Nat}
    (h : precedes (a :: as) (b :: bs) = true) : a ≤ b := by
  simp only [precedes, Bool.or_eq_true, Bool.and_eq_true, decide_eq_true_eq, beq_iff_eq] at h
  omega

/-- What comes first in a sorted list of lists precedes all others. -/
theorem exists_headD_mergeSort {l : List (List Nat)} (h : l ≠ []) :
    ∃ s ∈ l, (l.mergeSort precedes).headD [] = s ∧ ∀ t ∈ l, t ≠ s → precedes s t = true := by
  have hsorted := @List.pairwise_mergeSort _ precedes (fun _ _ _ => precedes_trans) precedes_total l
  have hmem : ∀ s, s ∈ l.mergeSort precedes ↔ s ∈ l := fun s => List.mem_mergeSort
  cases hresult : l.mergeSort precedes with
  | nil => exact absurd (by simpa using congrArg List.length hresult) h
  | cons s rest =>
    rw [hresult] at hsorted hmem
    refine ⟨s, (hmem s).mp List.mem_cons_self, rfl, fun t ht hne => ?_⟩
    have hrest := (List.mem_cons.mp ((hmem t).mpr ht)).resolve_left hne
    exact (List.pairwise_cons.mp hsorted).1 t hrest

/-- The group that comes first has the first node on a cycle, as that is the least of its group. -/
theorem IsGrouping.exists_firstCyclic (hg : g.WellFormed) {groups : List (List Nat)}
    (h : g.IsGrouping groups) {c : Nat} (hcycle : TransGen g.Edge c c)
    (hfirst : ∀ n < c, ¬ TransGen g.Edge n n) :
    ∃ s ∈ groups, g.firstCyclic groups = ascending s ∧ c ∈ s := by
  obtain ⟨m, e, _⟩ := TransGen.head'_iff.mp hcycle
  obtain ⟨s₀, hs₀, hc⟩ := h.covers c (hg.bounded c m e).1
  have hcyclic₀ : g.isCyclic s₀ = true := (h.isCyclic_iff hg hs₀ hc).mpr hcycle
  have hmem₀ : ascending s₀ ∈ (groups.filter g.isCyclic).map ascending :=
    List.mem_map_of_mem (List.mem_filter.mpr ⟨hs₀, hcyclic₀⟩)
  obtain ⟨t, ht, hresult, hleast⟩ := exists_headD_mergeSort (List.ne_nil_of_mem hmem₀)
  obtain ⟨s, hs, rfl⟩ := List.mem_map.mp ht
  obtain ⟨hs, hcyclic⟩ := List.mem_filter.mp hs
  refine ⟨s, hs, hresult, ?_⟩
  by_cases hsame : ascending s₀ = ascending s
  · exact mem_ascending.mp (hsame ▸ mem_ascending.mpr hc)
  · obtain ⟨a, as, hsorted, ha, hacycle⟩ := h.exists_ascending_eq_cons hg hs hcyclic
    obtain ⟨a₀, as₀, hsorted₀, _, _⟩ := h.exists_ascending_eq_cons hg hs₀ hcyclic₀
    have hprecedes := hleast _ hmem₀ hsame
    rw [hsorted, hsorted₀] at hprecedes
    have hle : a ≤ c := (le_of_precedes hprecedes).trans
      (le_of_ascending_eq_cons (h.nodup s₀ hs₀) hsorted₀ hc)
    have hge : c ≤ a := by
      by_contra hlt
      exact hfirst a (by omega) hacycle
    exact hge.antisymm hle ▸ ha

/-- **The first cyclic group** is that of the first node on a cycle, in ascending order, however the
groups are listed. -/
theorem IsGrouping.firstCyclic (hg : g.WellFormed) {groups : List (List Nat)}
    (h : g.IsGrouping groups) {c : Nat} (hcycle : TransGen g.Edge c c)
    (hfirst : ∀ n < c, ¬ TransGen g.Edge n n) :
    (g.firstCyclic groups).Pairwise (· < ·) ∧
      ∀ n, n ∈ g.firstCyclic groups ↔ TransGen g.Edge c n ∧ TransGen g.Edge n c := by
  obtain ⟨s, hs, hresult, hc⟩ := h.exists_firstCyclic hg hcycle hfirst
  rw [hresult]
  refine ⟨pairwise_ascending (h.nodup s hs), fun n => ?_⟩
  rw [mem_ascending, h.joined s hs c hc n, joined_iff_of_cycle hcycle]
  refine and_iff_right_of_imp fun ⟨hto, _⟩ => ?_
  obtain ⟨m, _, e⟩ := TransGen.tail'_iff.mp hto
  exact (hg.bounded m n e).2

theorem IsGrouping.firstCyclic_congr (hg : g.WellFormed) {groups groups' : List (List Nat)}
    (h : g.IsGrouping groups) (h' : g.IsGrouping groups') {c : Nat}
    (hcycle : TransGen g.Edge c c) (hfirst : ∀ n < c, ¬ TransGen g.Edge n n) :
    g.firstCyclic groups = g.firstCyclic groups' := by
  obtain ⟨hsorted, hmem⟩ := h.firstCyclic hg hcycle hfirst
  obtain ⟨hsorted', hmem'⟩ := h'.firstCyclic hg hcycle hfirst
  have hperm : (g.firstCyclic groups).Perm (g.firstCyclic groups') :=
    (List.perm_ext_iff_of_nodup (hsorted.imp fun h => h.ne) (hsorted'.imp fun h => h.ne)).mpr
      fun n => (hmem n).trans (hmem' n).symm
  exact hperm.eq_of_pairwise' hsorted hsorted'

end SchemaSdk.Schema.Graph

namespace SchemaSdk.Schema.Collection

variable {c : Collection}

/-! ## The models of a cycle -/

theorem topologicalOrder_eq_error_iff {e : Cycle} : c.topologicalOrder = .error e ↔
    c.dependencyGraph.order.length < c.dependencyGraph.size ∧
      e = ⟨(c.modelsAt c.dependencyGraph.firstCycle).map (·.name)⟩ := by
  by_cases h : c.dependencyGraph.order.length < c.dependencyGraph.size
  · simp [topologicalOrder, h, eq_comm]
  · simp [topologicalOrder, h]

theorem mem_modelsAt {places : List Nat} {m : Model} :
    m ∈ c.modelsAt places ↔ ∃ n ∈ places, c.models[n]? = some m := by
  simp [modelsAt]

/-- Models at places in ascending order stand as they stand in the schema. -/
theorem modelsAt_sublist {places : List Nat} (hplaces : places.Pairwise (· < ·))
    (hbound : ∀ n ∈ places, n < c.models.length) : (c.modelsAt places).Sublist c.models := by
  have hsub : places ⊆ List.range c.models.length := fun n hn => List.mem_range.mpr (hbound n hn)
  have hnodup : places.Nodup := hplaces.imp fun h => h.ne
  have hrange : places.Sublist (List.range c.models.length) :=
    List.sublist_of_subperm_of_pairwise (hnodup.subperm hsub) hplaces List.pairwise_lt_range
  calc
    (c.modelsAt places).Sublist (c.modelsAt (List.range c.models.length)) := hrange.filterMap _
    _ = c.models := c.modelsAt_range

/-- A collection without an order has a first place on a cycle. -/
theorem exists_first_of_length_lt (hnames : (c.models.map (·.name)).Nodup)
    (h : c.dependencyGraph.order.length < c.dependencyGraph.size) :
    ∃ (i : Nat) (first : Model), c.models[i]? = some first ∧
      Relation.TransGen c.dependencyGraph.Edge i i ∧
        ∀ j < i, ¬ Relation.TransGen c.dependencyGraph.Edge j j := by
  have hcycle : ∃ i, Relation.TransGen c.dependencyGraph.Edge i i := by
    by_contra hnone
    have hacyclic : c.dependencyGraph.Acyclic := fun i hi => hnone ⟨i, hi⟩
    have hlen := (Graph.length_order_eq_iff (wellFormed_dependencyGraph hnames)).mpr hacyclic
    omega
  classical
  obtain ⟨first, _, hfirst, _⟩ := (path_dependencyGraph_iff hnames).mp (Nat.find_spec hcycle)
  exact ⟨Nat.find hcycle, first, hfirst, Nat.find_spec hcycle, fun j hj => Nat.find_min hcycle hj⟩

/-- A path from place to place is a chain of dependencies that leads back. -/
theorem path_iff_dependsOn (hnames : (c.models.map (·.name)).Nodup) {i j : Nat} {m n : Model}
    (hm : c.models[i]? = some m) (hn : c.models[j]? = some n) :
    Relation.TransGen c.dependencyGraph.Edge i j ↔ Relation.TransGen c.DependsOn n m := by
  rw [path_dependencyGraph_iff hnames]
  simp [hm, hn]

/-- The models on a cycle with one of them, by the places on a cycle with its place. -/
theorem mem_modelsAt_of_cycle (hnames : (c.models.map (·.name)).Nodup) {i : Nat} {first : Model}
    (hfirst : c.models[i]? = some first) {places : List Nat}
    (hplaces : ∀ n, n ∈ places ↔ Relation.TransGen c.dependencyGraph.Edge i n ∧
      Relation.TransGen c.dependencyGraph.Edge n i) (m : Model) :
    m ∈ c.modelsAt places ↔
      Relation.TransGen c.DependsOn first m ∧ Relation.TransGen c.DependsOn m first := by
  rw [mem_modelsAt]
  constructor
  · rintro ⟨n, hn, hm⟩
    obtain ⟨hto, hback⟩ := (hplaces n).mp hn
    exact ⟨(path_iff_dependsOn hnames hm hfirst).mp hback,
      (path_iff_dependsOn hnames hfirst hm).mp hto⟩
  · rintro ⟨hto, hback⟩
    obtain ⟨_, ⟨hm, _⟩, _⟩ := Relation.TransGen.head'_iff.mp hback
    have hplace := List.getElem?_idxOf hm
    exact ⟨_, (hplaces _).mpr ⟨(path_iff_dependsOn hnames hfirst hplace).mpr hback,
      (path_iff_dependsOn hnames hplace hfirst).mpr hto⟩, hplace⟩

/-- **The models of a cycle.** The error of a parsed schema without an order names the models that
the first model on a cycle depends on and that depend on it, in the order of the schema. -/
theorem cycle_of_topologicalOrder {sdl : String} {e : Cycle} (h : parse sdl = .ok c)
    (herror : c.topologicalOrder = .error e) :
    ∃ (i : Nat) (first : Model) (members : List Model),
      c.models[i]? = some first ∧ Relation.TransGen c.DependsOn first first ∧
      (∀ (j : Nat) (m : Model), j < i → c.models[j]? = some m →
        ¬ Relation.TransGen c.DependsOn m m) ∧
      members.Sublist c.models ∧
      (∀ m, m ∈ members ↔
        Relation.TransGen c.DependsOn first m ∧ Relation.TransGen c.DependsOn m first) ∧
      e.models = members.map (·.name) ∧ e.models ≠ [] ∧ e.models.Nodup ∧
      ∀ groups, c.dependencyGraph.IsGrouping groups →
        c.modelsAt (c.dependencyGraph.firstCyclic groups) = members := by
  have hnames := (wellFormed_of_parse h).nodup_modelNames
  have hg := wellFormed_dependencyGraph hnames
  obtain ⟨hlen, rfl⟩ := topologicalOrder_eq_error_iff.mp herror
  obtain ⟨i, first, hfirst, hcycle, hleast⟩ := exists_first_of_length_lt hnames hlen
  have hgroups := Graph.isGrouping_groups c.dependencyGraph
  obtain ⟨hsorted, hmem⟩ := hgroups.firstCyclic hg hcycle hleast
  have hbound : ∀ n ∈ c.dependencyGraph.firstCycle, n < c.models.length := by
    intro n hn
    obtain ⟨_, _, e⟩ := Relation.TransGen.tail'_iff.mp ((hmem n).mp hn).1
    exact (hg.bounded _ _ e).2
  have hsublist := modelsAt_sublist hsorted hbound
  have hself := (path_iff_dependsOn hnames hfirst hfirst).mp hcycle
  have hmembers := mem_modelsAt_of_cycle hnames hfirst hmem
  refine ⟨i, first, _, hfirst, hself, ?_, hsublist, hmembers, rfl, ?_, ?_, ?_⟩
  · intro j m hj hm hcycle
    exact hleast j hj ((path_iff_dependsOn hnames hm hm).mpr hcycle)
  · have hmem : first ∈ c.modelsAt c.dependencyGraph.firstCycle :=
      (hmembers first).mpr ⟨hself, hself⟩
    exact List.ne_nil_of_mem (List.mem_map_of_mem hmem)
  · exact hnames.sublist (hsublist.map _)
  · intro groups hlisted
    rw [hlisted.firstCyclic_congr hg hgroups hcycle hleast]

/-- A cycle of two models, with a model that depends on it and one that it depends on, which is a
cycle of its own. -/
def cycleBetween : Collection where
  models := [
    ⟨"T", none, [⟨"a", none, "A", false, false, false⟩]⟩,
    ⟨"A", none, [⟨"b", none, "B", false, false, false⟩]⟩,
    ⟨"B", none, [⟨"a", none, "A", false, true, true⟩, ⟨"c", none, "C", false, false, false⟩]⟩,
    ⟨"C", none, [⟨"c", none, "C", false, false, false⟩]⟩]
  enums := []
  scalars := []
  queries := []
  mutations := []

/-- Neither the model that leads to the cycle is named nor the one that the cycle leads to. -/
theorem cycle_of_topologicalOrder_between :
    parse "type T { a: A } type A { b: B } type B { a: [A!] c: C } type C { c: C }" =
        .ok cycleBetween ∧
      cycleBetween.topologicalOrder = .error ⟨["A", "B"]⟩ ∧
      ∃ (first : Model) (members : List Model), members.map (·.name) = ["A", "B"] ∧
        ∀ m, m ∈ members ↔ Relation.TransGen cycleBetween.DependsOn first m ∧
          Relation.TransGen cycleBetween.DependsOn m first := by
  have hread : (parse
      "type T { a: A } type A { b: B } type B { a: [A!] c: C } type C { c: C }").toOption.any
        (· == cycleBetween) = true := by
    decide +kernel
  obtain ⟨c, h, hc⟩ := exists_eq_ok_of_any hread
  obtain rfl := eq_of_beq hc
  have herror : cycleBetween.topologicalOrder = .error ⟨["A", "B"]⟩ := by cbv
  obtain ⟨_, first, members, _, _, _, _, hmembers, hnames, _⟩ := cycle_of_topologicalOrder h herror
  exact ⟨h, herror, first, members, hnames.symm, hmembers⟩

end SchemaSdk.Schema.Collection
