import Mathlib.Data.List.Basic
import SchemaSdk.Text.Tidy

/-!
# What tidying keeps

Lines that hold no line feed are found again in the text they are written to, and tidying changes
them at their ends only: the visible lines of the result are the lines that are visible at all,
without the blanks they end in.
-/
namespace SchemaSdk.Text

/-! ## Trimmed ends -/

/-- What ends in something visible is kept up to there. -/
theorem trimEnd_append {s r : List Char} (h : trimEnd r ≠ []) :
    trimEnd (s ++ r) = s ++ trimEnd r := by
  induction s with
  | nil => rfl
  | cons c s ih =>
    have hne : trimEnd (s ++ r) ≠ [] := by simp [ih, h]
    rw [List.cons_append, trimEnd_cons, if_neg hne, ih, List.cons_append]

theorem trimEnd_cons_congr (c : Char) {r s : List Char} (h : trimEnd r = trimEnd s) :
    trimEnd (c :: r) = trimEnd (c :: s) := by
  rw [trimEnd_cons, trimEnd_cons, h]

theorem trimEnd_append_of_eq_nil {s r : List Char} (h : trimEnd r = []) :
    trimEnd (s ++ r) = trimEnd s := by
  induction s with
  | nil => exact h
  | cons c s ih => exact trimEnd_cons_congr c ih

theorem isPrefix_trimEnd (s : List Char) : trimEnd s <+: s := by
  induction s with
  | nil => exact List.prefix_rfl
  | cons c r ih =>
    rw [trimEnd_cons]
    split
    · split
      · exact List.nil_prefix
      · exact ⟨r, rfl⟩
    · exact List.cons_prefix_cons.mpr ⟨rfl, ih⟩

theorem mem_of_mem_trimEnd {s : List Char} {c : Char} (h : c ∈ trimEnd s) : c ∈ s :=
  (isPrefix_trimEnd s).subset h

/-! ## Lines -/

theorem not_mem_of_mem_lines {s l : List Char} (h : l ∈ lines s) : '\n' ∉ l := by
  fun_induction lines s generalizing l with
  | case1 => cases h
  | case2 r ih =>
    rcases List.mem_cons.mp h with rfl | h
    · exact List.not_mem_nil
    · exact ih h
  | case3 r ih =>
    rcases List.mem_cons.mp h with rfl | h
    · exact List.not_mem_nil
    · exact ih h
  | case4 c r hfeed _ hr ih =>
    rw [List.mem_singleton.mp h, List.mem_singleton]
    exact fun heq => hfeed heq.symm
  | case5 c r hfeed _ m ms hr ih =>
    rw [hr] at ih
    rcases List.mem_cons.mp h with rfl | h
    · rw [List.mem_cons, not_or]
      exact ⟨fun heq => hfeed heq.symm, ih List.mem_cons_self⟩
    · exact ih (List.mem_cons_of_mem m h)

/-- A line that is ended by a line feed is read without it, and perhaps without the carriage return
that it ends in. -/
theorem lines_append_cons {l : List Char} (h : '\n' ∉ l) (r : List Char) :
    ∃ m, lines (l ++ '\n' :: r) = m :: lines r ∧ trimEnd m = trimEnd l := by
  induction l with
  | nil => exact ⟨[], by simp [lines], rfl⟩
  | cons c l ih =>
    rw [List.mem_cons, not_or] at h
    by_cases hreturn : c = '\r' ∧ l = []
    · obtain ⟨rfl, rfl⟩ := hreturn
      exact ⟨[], by simp [lines], rfl⟩
    · obtain ⟨m, hlines, htrim⟩ := ih h.2
      refine ⟨c :: m, ?_, trimEnd_cons_congr c htrim⟩
      have hfeed : ∀ t, c = '\r' → l ++ '\n' :: r = '\n' :: t → False := by
        intro t hc heq
        cases l with
        | nil => exact hreturn ⟨hc, rfl⟩
        | cons d l =>
          obtain ⟨rfl, _⟩ := List.cons.inj heq
          exact h.2 List.mem_cons_self
      rw [List.cons_append, lines.eq_4 _ _ (fun heq => h.1 heq.symm) hfeed, hlines]

theorem map_trimEnd_lines_unlines {ls : List (List Char)} (h : ∀ l ∈ ls, '\n' ∉ l) :
    (lines (unlines ls)).map trimEnd = ls.map trimEnd := by
  induction ls with
  | nil => rfl
  | cons l ls ih =>
    obtain ⟨hl, hls⟩ := List.forall_mem_cons.mp h
    obtain ⟨m, hlines, htrim⟩ := lines_append_cons hl (unlines ls)
    have hunlines : unlines (l :: ls) = l ++ '\n' :: unlines ls := by simp [unlines]
    rw [hunlines, hlines, List.map_cons, List.map_cons, htrim, ih hls]

theorem splitOn_unlines {ls : List (List Char)} (h : ∀ l ∈ ls, '\n' ∉ l) :
    (unlines ls).splitOn '\n' = ls ++ [[]] := by
  induction ls with
  | nil => rfl
  | cons l ls ih =>
    obtain ⟨hl, hls⟩ := List.forall_mem_cons.mp h
    have hunlines : unlines (l :: ls) = l ++ '\n' :: unlines ls := by simp [unlines]
    rw [hunlines, List.splitOn_append_cons_self_of_not_mem hl, ih hls, List.cons_append]

/-! ## Visible lines -/

/-- The lines of a text that are not empty. -/
def visibleLines (s : List Char) : List (List Char) :=
  (s.splitOn '\n').filter (!·.isEmpty)

theorem filter_spacedFrom (started gap : Bool) (ls : List (List Char)) :
    (spacedFrom started gap ls).filter (!·.isEmpty) = ls.filter (!·.isEmpty) := by
  fun_induction spacedFrom started gap ls with
  | case1 => rfl
  | case2 started gap ls ih => simpa using ih
  | case3 started gap c l ls h ih => simpa using ih
  | case4 started gap c l ls h ih => simpa using ih

theorem not_mem_of_mem_spacedFrom {started gap : Bool} {ls : List (List Char)}
    (h : ∀ l ∈ ls, '\n' ∉ l) : ∀ l ∈ spacedFrom started gap ls, '\n' ∉ l := by
  fun_induction spacedFrom started gap ls with
  | case1 => simp
  | case2 started gap ls ih => exact ih (List.forall_mem_cons.mp h).2
  | case3 started gap c l ls hgap ih =>
    obtain ⟨hl, hls⟩ := List.forall_mem_cons.mp h
    exact List.forall_mem_cons.mpr ⟨List.not_mem_nil, List.forall_mem_cons.mpr ⟨hl, ih hls⟩⟩
  | case4 started gap c l ls hgap ih =>
    obtain ⟨hl, hls⟩ := List.forall_mem_cons.mp h
    exact List.forall_mem_cons.mpr ⟨hl, ih hls⟩

/-- **Tidying keeps the visible lines** up to the blanks that they end in. -/
theorem visibleLines_tidyChars_unlines {ls : List (List Char)} (h : ∀ l ∈ ls, '\n' ∉ l) :
    visibleLines (tidyChars (unlines ls)) = (ls.map trimEnd).filter (!·.isEmpty) := by
  have htidy : tidyLines (unlines ls) = spacedFrom false false (ls.map trimEnd) := by
    rw [tidyLines, map_trimEnd_lines_unlines h]
  have hfeed : ∀ l ∈ tidyLines (unlines ls), '\n' ∉ l := by
    rw [htidy]
    refine not_mem_of_mem_spacedFrom fun l hl hmem => ?_
    obtain ⟨m, hm, rfl⟩ := List.mem_map.mp hl
    exact h m hm (mem_of_mem_trimEnd hmem)
  have hvisible : visibleLines (tidyChars (unlines ls)) =
      (tidyLines (unlines ls)).filter (!·.isEmpty) := by
    unfold tidyChars
    split
    · rename_i heq
      rw [heq]
      rfl
    · rw [visibleLines, splitOn_unlines hfeed, List.filter_append]
      simp
  rw [hvisible, htidy, filter_spacedFrom]

/-! ## Lines that are read one by one -/

section Readers

variable {α : Type} {read : List Char → Option α}

/-- The line is a single one, and this is what the reader finds on it once it is tidied. -/
def ReadsLine (read : List Char → Option α) (l : String) (c : Option α) : Prop :=
  '\n' ∉ l.toList ∧ read (trimEnd l.toList) = c

/-- Lines each of which is a single one, and what the reader finds on them. -/
def ReadsLines (read : List Char → Option α) (ls : List String) (cs : List α) : Prop :=
  (∀ l ∈ ls, '\n' ∉ l.toList) ∧ ls.filterMap (fun l => read (trimEnd l.toList)) = cs

/-- A fixed line is read from its characters. That they are those of a literal is seen without
decoding it, which would take long. -/
theorem ReadsLine.of_ofList {l : List Char} {c : Option α}
    (h : '\n' ∉ l ∧ read (trimEnd l) = c) : ReadsLine read (String.ofList l) c := by
  rwa [ReadsLine, String.toList_ofList]

namespace ReadsLines

variable {l : String} {ls ms : List String} {c : α} {cs ds : List α}

theorem nil : ReadsLines read [] [] := ⟨List.forall_mem_nil _, rfl⟩

theorem cons (hl : ReadsLine read l (some c)) (h : ReadsLines read ls cs) :
    ReadsLines read (l :: ls) (c :: cs) := by
  refine ⟨List.forall_mem_cons.mpr ⟨hl.1, h.1⟩, ?_⟩
  rw [← h.2]
  exact List.filterMap_cons_some hl.2

theorem skip (hl : ReadsLine read l none) (h : ReadsLines read ls cs) :
    ReadsLines read (l :: ls) cs := by
  refine ⟨List.forall_mem_cons.mpr ⟨hl.1, h.1⟩, ?_⟩
  rw [← h.2]
  exact List.filterMap_cons_none hl.2

theorem skipAll (h : ∀ l ∈ ls, ReadsLine read l none) : ReadsLines read ls [] :=
  ⟨fun l hl => (h l hl).1, List.filterMap_eq_nil_iff.mpr fun l hl => (h l hl).2⟩

theorem append (h : ReadsLines read ls cs) (h' : ReadsLines read ms ds) :
    ReadsLines read (ls ++ ms) (cs ++ ds) :=
  ⟨List.forall_mem_append.mpr ⟨h.1, h'.1⟩, by rw [List.filterMap_append, h.2, h'.2]⟩

theorem flatMap {β : Type} {f : β → List String} {g : β → List α} {xs : List β}
    (h : ∀ x ∈ xs, ReadsLines read (f x) (g x)) :
    ReadsLines read (xs.flatMap f) (xs.flatMap g) := by
  induction xs with
  | nil => exact nil
  | cons x xs ih =>
    obtain ⟨hx, hxs⟩ := List.forall_mem_cons.mp h
    exact hx.append (ih hxs)

theorem skipFlatMap {β : Type} {f : β → List String} {xs : List β}
    (h : ∀ x ∈ xs, ReadsLines read (f x) []) : ReadsLines read (xs.flatMap f) [] := by
  have hnone : (xs.flatMap fun _ => ([] : List α)) = [] :=
    List.flatMap_eq_nil_iff.mpr fun _ _ => rfl
  rw [← hnone]
  exact flatMap h

/-- **What is read of tidied lines** is what is read of the lines, as long as nothing is read of an
empty one. -/
theorem filterMap_visibleLines (h : ReadsLines read ls cs) (hread : read [] = none) :
    (visibleLines (tidyChars (unlines (ls.map String.toList)))).filterMap read = cs := by
  have hfeed : ∀ l ∈ ls.map String.toList, '\n' ∉ l := by
    intro l hl
    obtain ⟨s, hs, rfl⟩ := List.mem_map.mp hl
    exact h.1 s hs
  have hempty : ∀ l : List Char, (Option.guard (fun l => !l.isEmpty) l).bind read = read l := by
    intro l
    cases l with
    | nil => exact hread.symm
    | cons c l => rfl
  rw [visibleLines_tidyChars_unlines hfeed, ← List.filterMap_eq_filter, List.filterMap_filterMap]
  simp only [hempty, List.filterMap_map, Function.comp_def]
  exact h.2

end ReadsLines

end Readers

end SchemaSdk.Text
