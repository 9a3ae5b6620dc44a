import SchemaSdk.Proofs.Text.Spacing

/-!
# The layout of tidied texts

Every tidied text has the layout of written files, and a text that has it already is left as it is,
so tidying twice is tidying once. Of the text that is tidied the visible lines are kept in their
order, without the blanks that they end in, and with them whether anything stood between two
neighbours.
-/
namespace SchemaSdk.Text

/-- Whether something on the line is visible. -/
def isVisible (l : List Char) : Bool := l.any (!isBlank ·)

theorem trimEnd_ne_nil_iff {l : List Char} : trimEnd l ≠ [] ↔ isVisible l = true := by
  constructor
  · intro hne
    obtain ⟨c, hc⟩ := Option.ne_none_iff_exists'.mp (mt List.getLast?_eq_none_iff.mp hne)
    have hmem := mem_of_mem_trimEnd (List.mem_of_getLast? hc)
    exact List.any_eq_true.mpr ⟨c, hmem, by simp [isBlank_getLast_trimEnd l c hc]⟩
  · intro hvisible
    obtain ⟨c, hmem, hc⟩ := List.any_eq_true.mp hvisible
    exact trimEnd_ne_nil_of_mem hmem (by simpa using hc)

theorem trimEnd_eq_nil_iff {l : List Char} : trimEnd l = [] ↔ isVisible l = false := by
  rw [← Bool.not_eq_true, ← trimEnd_ne_nil_iff, not_not]

theorem trimEnd_eq_self {l : List Char} (h : ∀ c ∈ l.getLast?, isBlank c = false) :
    trimEnd l = l := by
  cases l using List.reverseRecOn with
  | nil => rfl
  | append_singleton l c =>
    have hc := h c (by simp)
    rw [trimEnd_append (by simp [trimEnd, hc])]
    simp [trimEnd, hc]

theorem isVisible_eq_of_trimEnd_eq {l : List Char} (h : trimEnd l = l) :
    isVisible l = !l.isEmpty := by
  rw [Bool.eq_iff_iff, ← trimEnd_ne_nil_iff, h]
  simp

theorem filter_isEmpty_map_trimEnd (ls : List (List Char)) :
    (ls.map trimEnd).filter (!·.isEmpty) = (ls.filter isVisible).map trimEnd := by
  have hsame : ((fun l : List Char => !l.isEmpty) ∘ trimEnd) = isVisible := by
    funext l
    rw [Bool.eq_iff_iff, ← trimEnd_ne_nil_iff]
    simp
  rw [List.filter_map, hsame]

/-! ## The lines of printed lines -/

theorem lines_append_feed {l : List Char} (hfeed : '\n' ∉ l) (hend : l.getLast? ≠ some '\r')
    (r : List Char) : lines (l ++ '\n' :: r) = l :: lines r := by
  induction l with
  | nil => rw [List.nil_append, lines]
  | cons c l ih =>
    rw [List.mem_cons, not_or] at hfeed
    have hreturn : ∀ t, c = '\r' → l ++ '\n' :: r = '\n' :: t → False := by
      rintro t rfl heq
      cases l with
      | nil => exact hend rfl
      | cons d l => exact hfeed.2 ((List.cons.inj heq).1 ▸ List.mem_cons_self)
    have hend' : l.getLast? ≠ some '\r' := by
      cases l with
      | nil => simp
      | cons d l => simpa using hend
    rw [List.cons_append, lines.eq_4 _ _ (fun heq => hfeed.1 heq.symm) hreturn, ih hfeed.2 hend']

/-- Lines that hold no line feed and end in no carriage return are read as they are printed. -/
theorem lines_unlines {ls : List (List Char)} (hfeed : ∀ l ∈ ls, '\n' ∉ l)
    (hend : ∀ l ∈ ls, l.getLast? ≠ some '\r') : lines (unlines ls) = ls := by
  induction ls with
  | nil => rfl
  | cons l ls ih =>
    obtain ⟨hl, hfeed⟩ := List.forall_mem_cons.mp hfeed
    obtain ⟨hlast, hend⟩ := List.forall_mem_cons.mp hend
    rw [unlines_cons, lines_append_feed hl hlast, ih hfeed hend]

/-! ## The lines of tidied texts -/

/-- Lines that are printed as a tidied text. -/
structure AreTidied (ls : List (List Char)) : Prop where
  feedFree : ∀ l ∈ ls, '\n' ∉ l
  trimmed : ∀ l ∈ ls, ∀ c ∈ l.getLast?, isBlank c = false
  spaced : ls.IsChain fun l m => l ≠ [] ∨ m ≠ []
  first : ∀ l ∈ ls.head?, l ≠ []
  last : ∀ l ∈ ls.getLast?, l ≠ []

theorem head?_spacedFrom (gap : Bool) (ls : List (List Char)) :
    ∀ l ∈ (spacedFrom false gap ls).head?, l ≠ [] := by
  induction ls generalizing gap with
  | nil => simp [spacedFrom]
  | cons k ls ih =>
    cases k with
    | nil => exact ih true
    | cons c k => simp [spacedFrom]

theorem getLast?_spacedFrom (started gap : Bool) (ls : List (List Char)) :
    ∀ l ∈ (spacedFrom started gap ls).getLast?, l ≠ [] := by
  have hbehind {k : List Char} {ms : List (List Char)} (hk : k ≠ [])
      (hms : ∀ l ∈ ms.getLast?, l ≠ []) : ∀ l ∈ (k :: ms).getLast?, l ≠ [] := by
    cases ms with
    | nil => simpa using hk
    | cons m ms => simpa [List.getLast?_cons_cons] using hms
  fun_induction spacedFrom started gap ls with
  | case1 => simp
  | case2 started gap ls ih => exact ih
  | case3 started gap c l ls h ih =>
    rw [List.getLast?_cons_cons]
    exact hbehind (List.cons_ne_nil c l) ih
  | case4 started gap c l ls h ih => exact hbehind (List.cons_ne_nil c l) ih

theorem eq_nil_or_mem_of_mem_spacedFrom {started gap : Bool} {ls : List (List Char)} :
    ∀ x ∈ spacedFrom started gap ls, x = [] ∨ x ∈ ls := by
  fun_induction spacedFrom started gap ls with
  | case1 => simp
  | case2 started gap ls ih => exact fun x hx => (ih x hx).imp_right (List.mem_cons_of_mem _)
  | case3 started gap c l ls h ih =>
    refine List.forall_mem_cons.mpr ⟨.inl rfl, List.forall_mem_cons.mpr ⟨.inr ?_, fun x hx => ?_⟩⟩
    · exact List.mem_cons_self
    · exact (ih x hx).imp_right (List.mem_cons_of_mem _)
  | case4 started gap c l ls h ih =>
    refine List.forall_mem_cons.mpr ⟨.inr List.mem_cons_self, fun x hx => ?_⟩
    exact (ih x hx).imp_right (List.mem_cons_of_mem _)

theorem areTidied_tidyLines (s : List Char) : AreTidied (tidyLines s) where
  feedFree := by
    refine not_mem_of_mem_spacedFrom fun l hl hmem => ?_
    obtain ⟨m, hm, rfl⟩ := List.mem_map.mp hl
    exact not_mem_of_mem_lines hm (mem_of_mem_trimEnd hmem)
  trimmed l hl := by
    rcases eq_nil_or_mem_of_mem_spacedFrom l hl with rfl | hl
    · simp
    · obtain ⟨m, _, rfl⟩ := List.mem_map.mp hl
      exact isBlank_getLast_trimEnd m
  spaced := isChain_spacedFrom false false _
  first := head?_spacedFrom false _
  last := getLast?_spacedFrom false false _

namespace AreTidied

variable {ls : List (List Char)} (h : AreTidied ls)

include h

theorem map_trimEnd : ls.map trimEnd = ls := by
  calc ls.map trimEnd = ls.map id :=
        List.map_congr_left fun l hl => trimEnd_eq_self (h.trimmed l hl)
    _ = ls := List.map_id ls

theorem lines_unlines : lines (unlines ls) = ls := by
  refine Text.lines_unlines h.feedFree fun l hl hlast => ?_
  have hreturn := h.trimmed l hl '\r' hlast
  exact absurd hreturn (by decide)

/-- Spacing leaves these lines as they are. -/
theorem spacedFrom_eq_self : spacedFrom false false ls = ls := by
  cases ls with
  | nil => rfl
  | cons k ls =>
    obtain ⟨c, k, rfl⟩ := List.exists_cons_of_ne_nil (h.first k rfl)
    rw [spacedFrom, if_neg (by simp)]
    cases ls using List.reverseRecOn with
    | nil => rfl
    | append_singleton ls l =>
      have hl : l ≠ [] := h.last l (by rw [← List.cons_append, List.getLast?_concat]; rfl)
      rw [spacedFrom_append hl, spacedBefore_eq_self h.spaced.tail]
      rfl

theorem tidyLines_unlines : tidyLines (unlines ls) = ls := by
  rw [tidyLines, h.lines_unlines, h.map_trimEnd, h.spacedFrom_eq_self]

end AreTidied

/-! ## The layout of written files -/

/-- **The layout of written files.** The lines are ended by line feeds alone, the last one by no
more than one, and have no blanks before them; of two lines that follow one another one is visible;
and unless there is nothing but a line feed, the first and the last line are visible. -/
structure IsLaidOut (t : List Char) : Prop where
  ended : unlines (lines t) = t
  endedOnce : ∃ r, t = r ++ ['\n'] ∧ r.getLast? ≠ some '\n'
  trimmed : ∀ l ∈ lines t, ∀ c ∈ l.getLast?, isBlank c = false
  spaced : (lines t).IsChain fun l m => isVisible l ∨ isVisible m
  framed : t ≠ ['\n'] → (lines t).head?.any isVisible ∧ (lines t).getLast?.any isVisible

theorem isLaidOut_feed : IsLaidOut ['\n'] where
  ended := rfl
  endedOnce := ⟨[], rfl, by simp⟩
  trimmed := by simp [lines]
  spaced := .singleton _
  framed h := absurd rfl h

theorem AreTidied.isLaidOut_unlines {ls : List (List Char)} (h : AreTidied ls) (hne : ls ≠ []) :
    IsLaidOut (unlines ls) := by
  have hvisible {l : List Char} (hl : l ∈ ls) (hempty : l ≠ []) : isVisible l = true := by
    rw [isVisible_eq_of_trimEnd_eq (trimEnd_eq_self (h.trimmed l hl))]
    simpa using hempty
  refine ⟨?_, ?_, ?_, ?_, fun _ => ?_⟩
  · rw [h.lines_unlines]
  · obtain ⟨as, l, rfl⟩ := (List.eq_nil_or_concat' ls).resolve_left hne
    have hl : l ≠ [] := h.last l (by simp)
    refine ⟨unlines as ++ l, by simp [unlines], ?_⟩
    rw [List.getLast?_append_of_ne_nil _ hl]
    exact fun hlast => h.feedFree l (by simp) (List.mem_of_getLast? hlast)
  · rw [h.lines_unlines]
    exact h.trimmed
  · rw [h.lines_unlines]
    exact h.spaced.imp_of_mem_imp fun l m hl hm hor => hor.imp (hvisible hl) (hvisible hm)
  · obtain ⟨k, hk⟩ := Option.ne_none_iff_exists'.mp (mt List.head?_eq_none_iff.mp hne)
    obtain ⟨l, hl⟩ := Option.ne_none_iff_exists'.mp (mt List.getLast?_eq_none_iff.mp hne)
    rw [h.lines_unlines, hk, hl]
    exact ⟨hvisible (List.mem_of_head? hk) (h.first k hk),
      hvisible (List.mem_of_getLast? hl) (h.last l hl)⟩

theorem tidyChars_of_tidyLines {s : List Char} {ls : List (List Char)} (h : tidyLines s = ls)
    (hne : ls ≠ []) : tidyChars s = unlines ls := by
  rw [tidyChars, h]
  cases ls with
  | nil => exact absurd rfl hne
  | cons l ls => rfl

theorem isLaidOut_tidyChars (s : List Char) : IsLaidOut (tidyChars s) := by
  by_cases hne : tidyLines s = []
  · rw [tidyChars, hne]
    exact isLaidOut_feed
  · rw [tidyChars_of_tidyLines rfl hne]
    exact (areTidied_tidyLines s).isLaidOut_unlines hne

theorem IsLaidOut.areTidied {t : List Char} (h : IsLaidOut t) (hne : t ≠ ['\n']) :
    AreTidied (lines t) where
  feedFree _ hl := not_mem_of_mem_lines hl
  trimmed := h.trimmed
  spaced := by
    refine h.spaced.imp fun l m hor => hor.imp ?_ ?_
    all_goals
      rintro hvisible rfl
      cases hvisible
  first l hl := by
    have hvisible := (h.framed hne).1
    rw [Option.mem_def.mp hl] at hvisible
    rintro rfl
    cases hvisible
  last l hl := by
    have hvisible := (h.framed hne).2
    rw [Option.mem_def.mp hl] at hvisible
    rintro rfl
    cases hvisible

/-- **Tidying leaves a text as it is** exactly if it has the layout of written files. -/
theorem tidyChars_eq_self_iff {t : List Char} : tidyChars t = t ↔ IsLaidOut t := by
  constructor
  · intro h
    rw [← h]
    exact isLaidOut_tidyChars t
  · intro h
    by_cases hfeed : t = ['\n']
    · rw [hfeed]
      rfl
    have htidied := h.areTidied hfeed
    have hlines := htidied.tidyLines_unlines
    rw [h.ended] at hlines
    have hne : lines t ≠ [] := by
      intro hnil
      obtain ⟨r, hr, _⟩ := h.endedOnce
      rw [← h.ended, hnil] at hr
      simp [unlines] at hr
    rw [tidyChars_of_tidyLines hlines hne, h.ended]

/-! ## What becomes of the lines -/

theorem lines_tidyChars (s : List Char) :
    lines (tidyChars s) = if tidyLines s = [] then [[]] else tidyLines s := by
  split
  · next hnil =>
    rw [tidyChars, hnil]
    rfl
  · next hne =>
    rw [tidyChars_of_tidyLines rfl hne, (areTidied_tidyLines s).lines_unlines]

/-- Trimmed lines and empty ones among them show what the lines show. -/
theorem filter_isVisible_eq {ls ts : List (List Char)}
    (hmem : ∀ t ∈ ts, t = [] ∨ t ∈ ls.map trimEnd)
    (hfilter : ts.filter (!·.isEmpty) = (ls.map trimEnd).filter (!·.isEmpty)) :
    ts.filter isVisible = (ls.filter isVisible).map trimEnd := by
  have htrim : ∀ t ∈ ts, trimEnd t = t := by
    intro t ht
    rcases hmem t ht with rfl | ht
    · rfl
    · obtain ⟨l, _, rfl⟩ := List.mem_map.mp ht
      exact trimEnd_trimEnd l
  calc ts.filter isVisible = ts.filter (!·.isEmpty) :=
        List.filter_congr fun t ht => isVisible_eq_of_trimEnd_eq (htrim t ht)
    _ = (ls.map trimEnd).filter (!·.isEmpty) := hfilter
    _ = (ls.filter isVisible).map trimEnd := filter_isEmpty_map_trimEnd ls

theorem filter_spacedBefore (started gap : Bool) (ls : List (List Char)) :
    (spacedBefore started gap ls).filter (!·.isEmpty) = ls.filter (!·.isEmpty) := by
  fun_induction spacedBefore started gap ls with
  | case1 => rfl
  | case2 => rfl
  | case3 started gap ls ih => simpa using ih
  | case4 started gap c l ls ih =>
    rw [List.filter_append, List.filter_cons, ih]
    split <;> simp

theorem filter_lines_tidyChars (s : List Char) :
    (lines (tidyChars s)).filter isVisible = ((lines s).filter isVisible).map trimEnd := by
  have hlines : (tidyLines s).filter isVisible = ((lines s).filter isVisible).map trimEnd :=
    filter_isVisible_eq eq_nil_or_mem_of_mem_spacedFrom (filter_spacedFrom false false _)
  rw [← hlines, lines_tidyChars]
  split
  · next hnil =>
    rw [hnil]
    rfl
  · rfl

/-- Nothing is left but a line feed of a text in which nothing is visible. -/
theorem tidyChars_eq_feed_iff {s : List Char} :
    tidyChars s = ['\n'] ↔ ∀ l ∈ lines s, isVisible l = false := by
  have hfilter := filter_lines_tidyChars s
  constructor
  · intro h
    rw [h] at hfilter
    have hnone := List.map_eq_nil_iff.mp hfilter.symm
    simpa using List.filter_eq_nil_iff.mp hnone
  · intro h
    have hnone : (lines s).filter isVisible = [] := List.filter_eq_nil_iff.mpr (by simpa using h)
    by_contra hne
    rw [hnone] at hfilter
    have hfirst := ((isLaidOut_tidyChars s).framed hne).1
    cases hlines : lines (tidyChars s) with
    | nil => simp [hlines] at hfirst
    | cons l ls =>
      rw [hlines] at hfirst hfilter
      exact List.filter_eq_nil_iff.mp hfilter l List.mem_cons_self hfirst

/-- Two visible lines with nothing visible between them are neighbours among the second lines as
they are among the first: right behind each other, or with one empty line between them if there
were any lines between them. -/
def KeepsNeighbours (ls ts : List (List Char)) : Prop :=
  ∀ before l between m after, ls = before ++ l :: between ++ m :: after →
    isVisible l → isVisible m → (∀ k ∈ between, isVisible k = false) →
    ∃ before' after',
      ts = before' ++ trimEnd l :: (if between = [] then [] else [[]]) ++ trimEnd m :: after' ∧
      before'.filter isVisible = (before.filter isVisible).map trimEnd ∧
      after'.filter isVisible = (after.filter isVisible).map trimEnd

theorem spacedBefore_empty (started gap : Bool) {ls : List (List Char)} (h : ∀ l ∈ ls, l = []) :
    spacedBefore started gap ls = if started ∧ (gap ∨ ls ≠ []) then [[]] else [] := by
  induction ls generalizing gap with
  | nil => simp [spacedBefore]
  | cons l ls ih =>
    obtain ⟨rfl, hls⟩ := List.forall_mem_cons.mp h
    rw [spacedBefore, ih true hls]
    simp

theorem keepsNeighbours_tidyChars (s : List Char) :
    KeepsNeighbours (lines s) (lines (tidyChars s)) := by
  intro before l between m after hlines hl hm hbetween
  have hempty : ∀ k ∈ between.map trimEnd, k = [] := by
    intro k hk
    obtain ⟨j, hj, rfl⟩ := List.mem_map.mp hk
    exact trimEnd_eq_nil_iff.mpr (hbetween j hj)
  have htidy : tidyLines s = spacedBefore false false (before.map trimEnd) ++
      trimEnd l :: (if between = [] then [] else [[]]) ++
        trimEnd m :: spacedFrom true false (after.map trimEnd) := by
    rw [tidyLines, hlines]
    simp only [List.map_append, List.map_cons, List.append_assoc, List.cons_append]
    rw [spacedFrom_append (trimEnd_ne_nil_iff.mpr hl), spacedFrom_append (trimEnd_ne_nil_iff.mpr hm),
      spacedBefore_empty true false hempty]
    simp
  rw [lines_tidyChars, if_neg (by simp [htidy])]
  exact ⟨_, _, htidy,
    filter_isVisible_eq eq_nil_or_mem_of_mem_spacedBefore (filter_spacedBefore false false _),
    filter_isVisible_eq eq_nil_or_mem_of_mem_spacedFrom (filter_spacedFrom true false _)⟩

/-- **Tidied texts.** A tidied text has the layout of written files, so that tidying it again
changes nothing. It is a single line feed if nothing is visible in the text. Its visible lines are
those of the text in their order, without the blanks that they end in, and neighbours have one empty
line between them exactly if they had lines between them before. -/
theorem isLaidOut_tidy (s : String) :
    IsLaidOut (tidy s).toList ∧
      (tidy s = "\n" ↔ ∀ l ∈ lines s.toList, isVisible l = false) ∧
      (lines (tidy s).toList).filter isVisible =
        ((lines s.toList).filter isVisible).map trimEnd ∧
      KeepsNeighbours (lines s.toList) (lines (tidy s).toList) ∧
      tidy (tidy s) = tidy s := by
  have htidy : (tidy s).toList = tidyChars s.toList := String.toList_ofList
  refine ⟨?_, ?_, ?_, ?_, ?_⟩
  · rw [htidy]
    exact isLaidOut_tidyChars s.toList
  · rw [← tidyChars_eq_feed_iff, ← htidy, ← String.toList_inj]
    rfl
  · rw [htidy, filter_lines_tidyChars]
  · rw [htidy]
    exact keepsNeighbours_tidyChars s.toList
  · rw [tidy, htidy, tidyChars_eq_self_iff.mpr (isLaidOut_tidyChars s.toList), tidy]

/-- Lines of blanks become empty ones, and none is left at the ends. -/
example : tidy "a  \n   \n\n\nb\t\n\n" = "a\n\nb\n" := by decide +kernel

end SchemaSdk.Text
