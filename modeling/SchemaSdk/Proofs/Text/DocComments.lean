import Mathlib.Data.Nat.Init
import SchemaSdk.Proofs.Text.Tidy

/-!
# Texts without their documentation comments

Comments that are printed right before a visible line can be deleted from the tidied text without a
trace: no empty line comes or goes with them. What is printed as one line may hold line feeds, so it
may stand on several lines of the text.
-/
namespace SchemaSdk.Text

/-! ## What stands on the lines of a text -/

theorem trimEnd_cons_of_visible {c : Char} (hc : isBlank c = false) (r : List Char) :
    trimEnd (c :: r) = c :: trimEnd r := by
  rw [trimEnd_cons]
  split
  · next h => simp [h, hc]
  · rfl

theorem trimEnd_ne_nil_of_mem {s : List Char} {c : Char} (hmem : c ∈ s) (hc : isBlank c = false) :
    trimEnd s ≠ [] := by
  obtain ⟨before, after, rfl⟩ := List.append_of_mem hmem
  have hvisible : trimEnd (c :: after) ≠ [] := by simp [trimEnd_cons_of_visible hc]
  rw [trimEnd_append hvisible]
  simp [trimEnd_cons_of_visible hc]

/-- What is printed with a line feed stands on lines of its own. -/
theorem map_trimEnd_lines_append (l r : List Char) :
    (lines (l ++ '\n' :: r)).map trimEnd =
      (l.splitOn '\n').map trimEnd ++ (lines r).map trimEnd := by
  induction hn : l.length using Nat.strong_induction_on generalizing l with
  | _ n ih =>
    by_cases hfeed : '\n' ∈ l
    · obtain ⟨a, b, rfl, ha⟩ := List.eq_append_cons_of_mem hfeed
      obtain ⟨m, hlines, htrim⟩ := lines_append_cons ha (b ++ '\n' :: r)
      have hb : b.length < n := by
        rw [← hn, List.length_append, List.length_cons]
        omega
      rw [List.splitOn_append_cons_self_of_not_mem ha, List.append_assoc, List.cons_append, hlines,
        List.map_cons, htrim, ih _ hb b rfl]
      rfl
    · obtain ⟨m, hlines, htrim⟩ := lines_append_cons hfeed r
      rw [hlines, List.splitOn_eq_singleton hfeed, List.map_cons, htrim]
      rfl

theorem map_trimEnd_lines_flatMap (ls : List (List Char)) :
    (lines (unlines ls)).map trimEnd = ls.flatMap fun l => (l.splitOn '\n').map trimEnd := by
  induction ls with
  | nil => rfl
  | cons l ls ih =>
    have hunlines : unlines (l :: ls) = l ++ '\n' :: unlines ls := by simp [unlines]
    rw [hunlines, map_trimEnd_lines_append, ih, List.flatMap_cons]

/-- What stands before the first line feed of a text begins the first of its lines. -/
theorem exists_splitOn_eq_cons {s : List Char} (hs : '\n' ∉ s) (r : List Char) :
    ∃ t ts, (s ++ r).splitOn '\n' = (s ++ t) :: ts := by
  by_cases hfeed : '\n' ∈ r
  · obtain ⟨a, b, rfl, ha⟩ := List.eq_append_cons_of_mem hfeed
    have hmem : '\n' ∉ s ++ a := by simp [hs, ha]
    refine ⟨a, b.splitOn '\n', ?_⟩
    rw [← List.append_assoc, List.splitOn_append_cons_self_of_not_mem hmem]
  · have hmem : '\n' ∉ s ++ r := by simp [hs, hfeed]
    exact ⟨r, [], List.splitOn_eq_singleton hmem⟩

/-! ## Comments on visible lines -/

/-- Whether a line is a documentation comment behind its blanks. -/
def isDocComment (l : List Char) : Bool := ['/', '/', '/'].isPrefixOf (trimStart l)

/-- A text without the lines that are documentation comments. -/
def withoutDocComments (s : String) : String :=
  String.ofList (['\n'].intercalate ((s.toList.splitOn '\n').filter (!isDocComment ·)))

/-- A line is printed as a documentation comment. -/
def PrintsComment (l : String) : Prop := '\n' ∉ l.toList ∧ isDocComment (trimEnd l.toList) = true

/-- A line is printed with something visible before any line feed. -/
def StartsVisible (l : String) : Prop :=
  ∃ indent c r, l.toList = indent ++ c :: r ∧ '\n' ∉ indent ∧ isBlank c = false

theorem startsVisible {s : String} (hfeed : '\n' ∉ s.toList)
    (hvisible : s.toList.all isBlank = false) : StartsVisible s := by
  obtain ⟨c, hmem, hc⟩ := List.all_eq_false.mp hvisible
  rw [Bool.not_eq_true] at hc
  obtain ⟨before, after, heq⟩ := List.append_of_mem hmem
  refine ⟨before, c, after, heq, fun hbefore => hfeed ?_, hc⟩
  rw [heq]
  exact List.mem_append_left _ hbefore

theorem StartsVisible.append {s : String} (h : StartsVisible s) (r : String) :
    StartsVisible (s ++ r) := by
  obtain ⟨indent, c, rest, heq, hindent, hc⟩ := h
  exact ⟨indent, c, rest ++ r.toList, by simp [heq], hindent, hc⟩

/-- The first lines are the second ones with documentation comments before visible lines. -/
inductive Documented : List String → List String → Prop where
  | nil : Documented [] []
  | line (l : String) {ls ls' : List String} : Documented ls ls' → Documented (l :: ls) (l :: ls')
  | comment {doc : List String} (l : String) {ls ls' : List String} :
      (∀ d ∈ doc, PrintsComment d) → StartsVisible l → Documented ls ls' →
        Documented (doc ++ l :: ls) (l :: ls')

namespace Documented

variable {ls ls' ms ms' : List String}

theorem refl (ls : List String) : Documented ls ls := by
  induction ls with
  | nil => exact .nil
  | cons l ls ih => exact .line l ih

theorem append (h : Documented ls ls') (h' : Documented ms ms') :
    Documented (ls ++ ms) (ls' ++ ms') := by
  induction h with
  | nil => exact h'
  | line l _ ih => exact .line l ih
  | comment l hdoc hl _ ih =>
    rw [List.append_assoc, List.cons_append, List.cons_append]
    exact .comment l hdoc hl ih

theorem flatMap {α : Type} {f g : α → List String} {xs : List α}
    (h : ∀ x ∈ xs, Documented (f x) (g x)) : Documented (xs.flatMap f) (xs.flatMap g) := by
  induction xs with
  | nil => exact .nil
  | cons x xs ih =>
    obtain ⟨hx, hxs⟩ := List.forall_mem_cons.mp h
    rw [List.flatMap_cons, List.flatMap_cons]
    exact hx.append (ih hxs)

end Documented

/-! ## Deleting comments from tidied texts -/

/-- The lines of a tidied text that are no documentation comments. -/
def codeFrom (started gap : Bool) (ls : List (List Char)) : List (List Char) :=
  (spacedFrom started gap ls).filter (!isDocComment ·)

theorem codeFrom_append {as bs : List (List Char)}
    (h : ∀ started gap, codeFrom started gap as = codeFrom started gap bs)
    (ls : List (List Char)) (started gap : Bool) :
    codeFrom started gap (ls ++ as) = codeFrom started gap (ls ++ bs) := by
  induction ls generalizing started gap with
  | nil => exact h started gap
  | cons l ls ih =>
    cases l with
    | nil => exact ih started true
    | cons c l =>
      have hrest := ih true false
      simp only [codeFrom] at hrest
      simp only [codeFrom, List.cons_append, spacedFrom]
      split
      · simp only [List.filter_cons, hrest]
      · simp only [List.filter_cons, hrest]

/-- Comments leave the gap that they stand behind to the visible line after them. -/
theorem codeFrom_comments {doc : List (List Char)} (hdoc : ∀ d ∈ doc, isDocComment d = true)
    {l : List Char} (hl : l ≠ []) (ls : List (List Char)) (started gap : Bool) :
    codeFrom started gap (doc ++ l :: ls) = codeFrom started gap (l :: ls) := by
  obtain ⟨c, r, rfl⟩ := List.exists_cons_of_ne_nil hl
  induction doc generalizing started gap with
  | nil => rfl
  | cons d doc ih =>
    obtain ⟨hd, hdoc⟩ := List.forall_mem_cons.mp hdoc
    have hrest := ih hdoc true false
    match d with
    | [] => cases hd
    | a :: d =>
      have hempty : isDocComment [] = false := rfl
      simp only [codeFrom, spacedFrom, Bool.and_false, Bool.false_eq_true, if_false] at hrest
      simp only [codeFrom, List.cons_append, spacedFrom]
      cases started && gap
      · simpa [List.filter_cons, hd] using hrest
      · simpa [List.filter_cons, hd, hempty] using hrest

theorem spacedFrom_eq_nil_iff {started gap : Bool} {ls : List (List Char)} :
    spacedFrom started gap ls = [] ↔ ∀ l ∈ ls, l = [] := by
  fun_induction spacedFrom started gap ls with
  | case1 => simp
  | case2 started gap ls ih => simpa using ih
  | case3 => simp
  | case4 => simp

/-- What stands on the lines of a text after printing. -/
def printedLines (ls : List String) : List (List Char) :=
  ls.flatMap fun l => (l.toList.splitOn '\n').map trimEnd

theorem printedLines_append (ls ms : List String) :
    printedLines (ls ++ ms) = printedLines ls ++ printedLines ms := List.flatMap_append

theorem printedLines_cons (l : String) (ls : List String) :
    printedLines (l :: ls) = printedLines [l] ++ printedLines ls := printedLines_append [l] ls

theorem tidyLines_printed (ls : List String) :
    tidyLines (unlines (ls.map String.toList)) = spacedFrom false false (printedLines ls) := by
  rw [tidyLines, map_trimEnd_lines_flatMap, List.flatMap_map]
  rfl

theorem printedLines_singleton {l : String} (hfeed : '\n' ∉ l.toList) :
    printedLines [l] = [trimEnd l.toList] := by
  rw [printedLines, List.flatMap_singleton, List.splitOn_eq_singleton hfeed, List.map_singleton]

theorem isDocComment_of_mem_printedLines {doc : List String} (hdoc : ∀ d ∈ doc, PrintsComment d) :
    ∀ l ∈ printedLines doc, isDocComment l = true := by
  intro l hl
  obtain ⟨d, hd, hl⟩ := List.mem_flatMap.mp hl
  obtain ⟨hfeed, hcomment⟩ := hdoc d hd
  rw [List.splitOn_eq_singleton hfeed, List.map_singleton, List.mem_singleton] at hl
  exact hl ▸ hcomment

theorem StartsVisible.exists_printedLines {l : String} (h : StartsVisible l) :
    ∃ m ms, printedLines [l] = m :: ms ∧ m ≠ [] := by
  obtain ⟨indent, c, r, hl, hindent, hc⟩ := h
  have hfeed : c ≠ '\n' := by
    rintro rfl
    cases hc
  have hstart : '\n' ∉ indent ++ [c] := by simp [hindent, hfeed.symm]
  obtain ⟨t, ts, hsplit⟩ := exists_splitOn_eq_cons hstart r
  refine ⟨_, ts.map trimEnd, ?_, trimEnd_ne_nil_of_mem (s := indent ++ [c] ++ t) (by simp) hc⟩
  rw [printedLines, List.flatMap_singleton, hl, List.append_cons, hsplit, List.map_cons]

namespace Documented

variable {ls ls' : List String}

theorem codeFrom_eq (h : Documented ls ls') (started gap : Bool) :
    codeFrom started gap (printedLines ls) = codeFrom started gap (printedLines ls') := by
  induction h generalizing started gap with
  | nil => rfl
  | @line l ls ls' _ ih =>
    rw [printedLines_cons l ls, printedLines_cons l ls']
    exact codeFrom_append ih _ started gap
  | @comment doc l ls ls' hdoc hl _ ih =>
    obtain ⟨m, ms, hprinted, hm⟩ := hl.exists_printedLines
    rw [printedLines_append, printedLines_cons l ls, printedLines_cons l ls', hprinted,
      List.cons_append, codeFrom_comments (isDocComment_of_mem_printedLines hdoc) hm]
    exact codeFrom_append ih (m :: ms) started gap

/-- Comments do not make a text visible that is not visible without them. -/
theorem blank_iff (h : Documented ls ls') :
    (∀ l ∈ printedLines ls, l = []) ↔ ∀ l ∈ printedLines ls', l = [] := by
  induction h with
  | nil => rfl
  | @line l ls ls' _ ih =>
    rw [printedLines_cons l ls, printedLines_cons l ls', List.forall_mem_append,
      List.forall_mem_append, ih]
  | @comment doc l ls ls' hdoc hl _ _ =>
    obtain ⟨m, ms, hprinted, hm⟩ := hl.exists_printedLines
    rw [printedLines_append, printedLines_cons l ls, printedLines_cons l ls', hprinted]
    exact iff_of_false (fun h => hm (h m (by simp))) fun h => hm (h m (by simp))

end Documented

/-- The lines of a tidied text; a text without visible lines has one that is empty. -/
theorem splitOn_tidyChars (s : List Char) :
    (tidyChars s).splitOn '\n' = (if tidyLines s = [] then [[]] else tidyLines s) ++ [[]] := by
  have hfeed : ∀ l ∈ tidyLines s, '\n' ∉ l := by
    refine not_mem_of_mem_spacedFrom fun l hl hmem => ?_
    obtain ⟨m, hm, rfl⟩ := List.mem_map.mp hl
    exact not_mem_of_mem_lines hm (mem_of_mem_trimEnd hmem)
  unfold tidyChars
  split
  · next hnone =>
    rw [if_pos hnone]
    rfl
  · next hsome =>
    rw [if_neg hsome, splitOn_unlines hfeed]

/-- **The visible lines of a tidied text** are those that are printed, whatever is printed. -/
theorem visibleLines_tidyChars_printed (ls : List String) :
    visibleLines (tidyChars (unlines (ls.map String.toList))) =
      (printedLines ls).filter (!·.isEmpty) := by
  rw [visibleLines, splitOn_tidyChars, List.filter_append]
  split
  · next hnone =>
    rw [tidyLines_printed] at hnone
    rw [← filter_spacedFrom false false (printedLines ls), hnone]
    rfl
  · rw [tidyLines_printed, filter_spacedFrom]
    exact List.append_nil _

/-- **Comments on visible lines leave no trace.** Tidied texts that are printed with and without
them are the same once their documentation comments are deleted. -/
theorem Documented.withoutDocComments_tidy {ls ls' : List String} (h : Documented ls ls') :
    withoutDocComments (tidy (String.ofList (unlines (ls.map String.toList)))) =
      withoutDocComments (tidy (String.ofList (unlines (ls'.map String.toList)))) := by
  have hcode := h.codeFrom_eq false false
  have hblank : spacedFrom false false (printedLines ls) = [] ↔
      spacedFrom false false (printedLines ls') = [] := by
    rw [spacedFrom_eq_nil_iff, spacedFrom_eq_nil_iff, h.blank_iff]
  simp only [codeFrom] at hcode
  simp only [withoutDocComments, tidy, String.toList_ofList, splitOn_tidyChars, tidyLines_printed,
    List.filter_append]
  by_cases hnone : spacedFrom false false (printedLines ls) = []
  · rw [if_pos hnone, if_pos (hblank.mp hnone)]
  · rw [if_neg hnone, if_neg (fun h => hnone (hblank.mpr h)), hcode]

end SchemaSdk.Text
