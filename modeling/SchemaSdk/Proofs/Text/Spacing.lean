import Mathlib.Data.List.Chain
import SchemaSdk.Proofs.Text.DocComments

/-!
# Texts within a tidied text

Tidying takes blanks from the ends of lines and empty lines from between visible ones, and nothing
else. So what it makes of a printed text that ends visibly is that text with some blanks left out,
wherever the text stands, and it is the text itself exactly if its lines end visibly and no two
empty ones follow one another.
-/
namespace SchemaSdk.Text

/-! ## Texts as lines and a rest -/

theorem unlines_append (ls ms : List (List Char)) : unlines (ls ++ ms) = unlines ls ++ unlines ms :=
  List.flatMap_append

theorem unlines_cons (l : List Char) (ls : List (List Char)) :
    unlines (l :: ls) = l ++ '\n' :: unlines ls := by
  simp [unlines]

/-- A text is made of lines with their line feeds and of what stands behind the last of these. -/
theorem exists_unlines_append (s : List Char) :
    ∃ ls l, (∀ k ∈ ls, '\n' ∉ k) ∧ '\n' ∉ l ∧ s = unlines ls ++ l := by
  induction s with
  | nil => exact ⟨[], [], nofun, List.not_mem_nil, rfl⟩
  | cons c s ih =>
    obtain ⟨ls, l, hls, hl, rfl⟩ := ih
    by_cases hc : c = '\n'
    · exact ⟨[] :: ls, l, List.forall_mem_cons.mpr ⟨List.not_mem_nil, hls⟩, hl,
        by simp [hc, unlines]⟩
    cases ls with
    | nil => exact ⟨[], c :: l, nofun, by simp [Ne.symm hc, hl], rfl⟩
    | cons k ls =>
      obtain ⟨hk, hls⟩ := List.forall_mem_cons.mp hls
      refine ⟨(c :: k) :: ls, l, List.forall_mem_cons.mpr ⟨?_, hls⟩, hl, by simp [unlines]⟩
      simp [Ne.symm hc, hk]

theorem splitOn_unlines_append {ls : List (List Char)} (hls : ∀ k ∈ ls, '\n' ∉ k) {l : List Char}
    (hl : '\n' ∉ l) : (unlines ls ++ l).splitOn '\n' = ls ++ [l] := by
  induction ls with
  | nil => exact List.splitOn_eq_singleton hl
  | cons k ls ih =>
    obtain ⟨hk, hls⟩ := List.forall_mem_cons.mp hls
    rw [unlines_cons, List.append_assoc, List.cons_append,
      List.splitOn_append_cons_self_of_not_mem hk, ih hls, List.cons_append]

/-- Lines joined by line feeds, with nothing on the last, are ended by them. -/
theorem intercalate_append_nil (ls : List (List Char)) :
    ['\n'].intercalate (ls ++ [[]]) = unlines ls := by
  induction ls with
  | nil => rfl
  | cons l ls ih =>
    obtain ⟨m, ms, hrest⟩ : ∃ m ms, ls ++ [[]] = m :: ms := by
      cases ls with
      | nil => exact ⟨[], [], rfl⟩
      | cons m ms => exact ⟨m, ms ++ [[]], rfl⟩
    rw [List.cons_append, hrest, List.intercalate_cons_cons, ← hrest, ih, unlines_cons]
    simp

/-! ## Spaced lines -/

/-- What spacing makes of the lines before a visible one. -/
def spacedBefore (started gap : Bool) : List (List Char) → List (List Char)
  | [] => if started && gap then [[]] else []
  | [] :: ls => spacedBefore started true ls
  | (c :: l) :: ls =>
    (if started && gap then [[]] else []) ++ (c :: l) :: spacedBefore true false ls

/-- Spacing starts anew behind a visible line. -/
theorem spacedFrom_append {l : List Char} (hl : l ≠ []) (started gap : Bool)
    (as bs : List (List Char)) : spacedFrom started gap (as ++ l :: bs) =
      spacedBefore started gap as ++ l :: spacedFrom true false bs := by
  obtain ⟨d, r, rfl⟩ := List.exists_cons_of_ne_nil hl
  fun_induction spacedBefore started gap as with
  | case1 started gap h => rw [List.nil_append, spacedFrom, if_pos h]; rfl
  | case2 started gap h => rw [List.nil_append, spacedFrom, if_neg h]; rfl
  | case3 started gap as ih => exact ih
  | case4 started gap c l as ih =>
    rw [List.cons_append, spacedFrom, ih]
    split <;> simp

theorem eq_nil_or_mem_of_mem_spacedBefore {started gap : Bool} {as : List (List Char)} :
    ∀ x ∈ spacedBefore started gap as, x = [] ∨ x ∈ as := by
  fun_induction spacedBefore started gap as with
  | case1 => simp
  | case2 => simp
  | case3 started gap as ih => exact fun x hx => (ih x hx).imp id (List.mem_cons_of_mem _)
  | case4 started gap c l as ih =>
    refine List.forall_mem_append.mpr ⟨by split <;> simp, ?_⟩
    refine List.forall_mem_cons.mpr ⟨.inr List.mem_cons_self, fun x hx => ?_⟩
    exact (ih x hx).imp id (List.mem_cons_of_mem _)

/-- Spacing leaves out line feeds and nothing else. -/
theorem sublist_unlines_spacedBefore (started gap : Bool) (as : List (List Char)) :
    (unlines (spacedBefore started gap as)).Sublist
      ((if started && gap then ['\n'] else []) ++ unlines as) := by
  fun_induction spacedBefore started gap as with
  | case1 started gap h => rw [if_pos h]; exact .refl _
  | case2 started gap h => rw [if_neg h]; exact .refl _
  | case3 started gap as ih =>
    refine ih.trans (.trans ?_ (List.sublist_append_right _ _))
    rw [unlines_cons, Bool.and_true, List.nil_append]
    cases started
    · exact List.sublist_append_right ['\n'] _
    · exact .refl _
  | case4 started gap c l as ih =>
    rw [unlines_append, unlines_cons, unlines_cons]
    refine List.Sublist.append ?_ (.append_left (ih.cons_cons '\n') _)
    split <;> exact .refl _

theorem count_unlines_spacedBefore {c : Char} (hc : c ≠ '\n') (started gap : Bool)
    (as : List (List Char)) :
    (unlines (spacedBefore started gap as)).count c = (unlines as).count c := by
  have hgap : (unlines [[]]).count c = 0 := List.count_eq_zero.mpr (by simpa [unlines] using hc)
  have hnone : (unlines []).count c = 0 := rfl
  fun_induction spacedBefore started gap as with
  | case1 => rw [hgap, hnone]
  | case2 => rfl
  | case3 started gap as ih =>
    rw [ih, unlines_cons, List.nil_append, List.count_cons_of_ne hc.symm]
  | case4 started gap d l as ih =>
    rw [unlines_append, List.count_append, unlines_cons, unlines_cons, List.count_append,
      List.count_append, List.count_cons_of_ne hc.symm, List.count_cons_of_ne hc.symm, ih]
    split
    · rw [hgap, Nat.zero_add]
    · rw [hnone, Nat.zero_add]

/-- Of two lines that follow one another one is visible. -/
theorem isChain_spacedFrom (started gap : Bool) (ls : List (List Char)) :
    (spacedFrom started gap ls).IsChain fun l m => l ≠ [] ∨ m ≠ [] := by
  have hvisible {c : Char} {l : List Char} {ms : List (List Char)}
      (h : ms.IsChain fun l m => l ≠ [] ∨ m ≠ []) :
      ((c :: l) :: ms).IsChain fun l m => l ≠ [] ∨ m ≠ [] := by
    cases ms with
    | nil => exact .singleton _
    | cons m ms => exact .cons_cons (.inl nofun) h
  fun_induction spacedFrom started gap ls with
  | case1 => exact .nil
  | case2 started gap ls ih => exact ih
  | case3 started gap c l ls h ih => exact .cons_cons (.inr nofun) (hvisible ih)
  | case4 started gap c l ls h ih => exact hvisible ih

/-- Lines of which no two empty ones follow one another are spaced already. -/
theorem spacedBefore_eq_self {ls : List (List Char)} {l : List Char}
    (h : (ls ++ [l]).IsChain fun l m => l ≠ [] ∨ m ≠ []) : spacedBefore true false ls = ls := by
  induction ls with
  | nil => rfl
  | cons k ls ih =>
    have hrest := ih h.tail
    cases k with
    | cons c k => rw [spacedBefore, hrest]; rfl
    | nil =>
      -- The line behind an empty one is visible.
      cases ls with
      | nil => rfl
      | cons k ls =>
        have hk : k ≠ [] := by simpa using h.rel
        obtain ⟨c, k, rfl⟩ := List.exists_cons_of_ne_nil hk
        rw [spacedBefore] at hrest
        rw [spacedBefore, spacedBefore]
        exact congrArg ([] :: ·) hrest

/-! ## Texts that stay as they are -/

/-- The lines of the text have no blanks at their ends, and no two that follow one another are
empty. -/
structure IsTidy (s : List Char) : Prop where
  trimmed : ∀ l ∈ s.splitOn '\n', trimEnd l = l
  spaced : (s.splitOn '\n').IsChain fun l m => l ≠ [] ∨ m ≠ []

theorem trimEnd_trimEnd (s : List Char) : trimEnd (trimEnd s) = trimEnd s := by
  induction s with
  | nil => rfl
  | cons c s ih =>
    rw [trimEnd_cons]
    split
    · split
      · rfl
      · next hc => simp [trimEnd, hc]
    · next hne => rw [trimEnd_cons, if_neg (by rwa [ih]), ih]

theorem count_trimEnd {c : Char} (hc : isBlank c = false) (s : List Char) :
    (trimEnd s).count c = s.count c := by
  induction s with
  | nil => rfl
  | cons d s ih =>
    rw [List.count_cons, ← ih, trimEnd_cons]
    split
    · next hnil =>
      split
      · next hd =>
        have hne : d ≠ c := by
          rintro rfl
          rw [hd] at hc
          cases hc
        simp [hnil, hne]
      · simp [hnil, List.count_cons]
    · rw [List.count_cons]

theorem sublist_unlines_map_trimEnd (ls : List (List Char)) :
    (unlines (ls.map trimEnd)).Sublist (unlines ls) := by
  induction ls with
  | nil => exact List.Sublist.refl _
  | cons l ls ih =>
    simp only [unlines, List.map_cons, List.flatMap_cons] at ih ⊢
    exact ((isPrefix_trimEnd l).sublist.append (.refl ['\n'])).append ih

theorem count_unlines_map_trimEnd {c : Char} (hc : isBlank c = false) (ls : List (List Char)) :
    (unlines (ls.map trimEnd)).count c = (unlines ls).count c := by
  induction ls with
  | nil => rfl
  | cons l ls ih =>
    simp only [unlines, List.map_cons, List.flatMap_cons] at ih ⊢
    rw [List.count_append, List.count_append, List.count_append, List.count_append,
      count_trimEnd hc, ih]

/-- A text with a visible last line is tidy exactly if spacing leaves the lines before that. -/
theorem isTidy_iff {ls : List (List Char)} (hls : ∀ k ∈ ls, '\n' ∉ k) {l : List Char}
    (hl : '\n' ∉ l) (hne : l ≠ []) (htrim : trimEnd l = l) :
    IsTidy (unlines ls ++ l) ↔ spacedBefore true false (ls.map trimEnd) = ls := by
  have hsplit := splitOn_unlines_append hls hl
  constructor
  · rintro ⟨htrimmed, hspaced⟩
    rw [hsplit] at htrimmed hspaced
    have hsame : ls.map trimEnd = ls.map id :=
      List.map_congr_left fun k hk => htrimmed k (List.mem_append_left _ hk)
    rw [hsame, List.map_id, spacedBefore_eq_self hspaced]
  · intro h
    constructor
    · rw [hsplit]
      refine List.forall_mem_append.mpr ⟨fun k hk => ?_, List.forall_mem_singleton.mpr htrim⟩
      rw [← h] at hk
      rcases eq_nil_or_mem_of_mem_spacedBefore k hk with rfl | hk
      · rfl
      · obtain ⟨m, _, rfl⟩ := List.mem_map.mp hk
        exact trimEnd_trimEnd m
    · have hchain := isChain_spacedFrom true false (ls.map trimEnd ++ [l])
      rw [spacedFrom_append hne, h] at hchain
      rwa [hsplit]

/-- **Printed texts within a tidied text.** What is printed with a visible ending behind a visible
line loses nothing but blanks up to the ending, and none at all exactly if it is tidy. -/
theorem exists_spacedFrom_printed (s ending : List Char) (hfeed : '\n' ∉ ending)
    (hne : ending ≠ []) (htrim : trimEnd ending = ending) (bs : List (List Char)) :
    ∃ xs l, spacedFrom true false (((s ++ ending).splitOn '\n').map trimEnd ++ bs) =
        xs ++ (l ++ ending) :: spacedFrom true false bs ∧
      (unlines xs ++ l).Sublist s ∧
      (∀ c, isBlank c = false → (unlines xs ++ l).count c = s.count c) ∧
      (unlines xs ++ l = s ↔ IsTidy (s ++ ending)) := by
  obtain ⟨ls, l, hls, hl, rfl⟩ := exists_unlines_append s
  have hlast : '\n' ∉ l ++ ending := by simp [hl, hfeed]
  have hvisible : l ++ ending ≠ [] := List.append_ne_nil_of_right_ne_nil l hne
  have hlastTrim : trimEnd (l ++ ending) = l ++ ending := by
    rw [trimEnd_append (by rwa [htrim]), htrim]
  have hsplit : (unlines ls ++ l ++ ending).splitOn '\n' = ls ++ [l ++ ending] := by
    rw [List.append_assoc, splitOn_unlines_append hls hlast]
  refine ⟨spacedBefore true false (ls.map trimEnd), l, ?_, ?_, ?_, ?_⟩
  · rw [hsplit, List.map_append, List.map_singleton, hlastTrim, List.append_assoc,
      List.singleton_append, spacedFrom_append hvisible]
  · have hspaced := sublist_unlines_spacedBefore true false (ls.map trimEnd)
    exact (hspaced.trans (sublist_unlines_map_trimEnd ls)).append (.refl l)
  · intro c hc
    have hc' : c ≠ '\n' := by
      rintro rfl
      cases hc
    rw [List.count_append, List.count_append, count_unlines_spacedBefore hc',
      count_unlines_map_trimEnd hc]
  · have hfree : ∀ x ∈ spacedBefore true false (ls.map trimEnd), '\n' ∉ x := by
      intro x hx
      rcases eq_nil_or_mem_of_mem_spacedBefore x hx with rfl | hx
      · exact List.not_mem_nil
      · obtain ⟨k, hk, rfl⟩ := List.mem_map.mp hx
        exact fun hmem => hls k hk (mem_of_mem_trimEnd hmem)
    rw [List.append_assoc, isTidy_iff hls hlast hvisible hlastTrim, List.append_left_inj]
    refine ⟨fun heq => ?_, congrArg unlines⟩
    have hlines := congrArg (List.splitOn '\n') heq
    rw [splitOn_unlines hfree, splitOn_unlines hls] at hlines
    exact List.append_cancel_right hlines

end SchemaSdk.Text
