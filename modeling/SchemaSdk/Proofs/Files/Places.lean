import Mathlib.Data.List.TakeWhile
import SchemaSdk.Proofs.Files.Kept

/-!
# Places of paths

The place that a path leads to is a matter of its steps alone; what stands on the way only decides
whether one gets there. A path above another one has the first of its steps, and a file in a
directory has one step more. So making a directory touches nothing but the places on its path.
-/
namespace SchemaSdk

namespace Path

variable {p q base name : String}

/-! ## Steps of a path -/

/-- The steps of a path given by its characters. -/
def stepsOf (s : List Char) : List String := ((s.splitOn '/').filter (!·.isEmpty)).map String.ofList

theorem steps_eq (p : String) : steps p = stepsOf p.toList := rfl

theorem stepsOf_append_slash (s r : List Char) :
    stepsOf (s ++ '/' :: r) = stepsOf s ++ stepsOf r := by
  rw [stepsOf, List.splitOn_append_cons_self, List.filter_append, List.map_append]
  rfl

theorem stepsOf_nil : stepsOf [] = [] := rfl

theorem stepsOf_of_notMem {s : List Char} (h : '/' ∉ s) (hne : s ≠ []) :
    stepsOf s = [String.ofList s] := by
  rw [stepsOf, List.splitOn_eq_singleton h]
  simp [hne]

/-- A path without steps is empty or starts at the root. -/
theorem isAbsolute_of_steps_eq_nil (h : steps p = []) (hne : p.isEmpty = false) :
    isAbsolute p = true := by
  have hchars : p.toList ≠ [] := by
    intro hnil
    rw [String.toList_eq_nil_iff] at hnil
    simp [hnil] at hne
  rw [steps_eq] at h
  by_cases hslash : '/' ∈ p.toList
  · obtain ⟨first, rest, hp, hfirst⟩ := List.eq_append_cons_of_mem hslash
    rw [hp, stepsOf_append_slash] at h
    cases first with
    | nil => simp [isAbsolute, hp]
    | cons c r =>
      rw [stepsOf_of_notMem hfirst (List.cons_ne_nil _ _)] at h
      cases h
  · rw [stepsOf_of_notMem hslash hchars] at h
    cases h

/-! ### Files in a directory -/

/-- A name that a file in a directory can have: it is a single step, and leads further down. -/
structure IsFileName (name : String) : Prop where
  nonempty : name.isEmpty = false
  separator : '/' ∉ name.toList
  here : name ≠ "."
  above : name ≠ ".."

theorem IsFileName.toList_ne_nil (h : IsFileName name) : name.toList ≠ [] := by
  intro hnil
  have hempty := h.nonempty
  rw [String.toList_eq_nil_iff.mp hnil] at hempty
  cases hempty

theorem IsFileName.steps (h : IsFileName name) : Path.steps name = [name] := by
  rw [steps_eq, stepsOf_of_notMem h.separator h.toList_ne_nil, String.ofList_toList]

theorem IsFileName.isAbsolute (h : IsFileName name) : Path.isAbsolute name = false := by
  rw [Path.isAbsolute]
  by_contra habsolute
  have hhead : name.toList.head? = some '/' := by simpa using habsolute
  exact h.separator (List.mem_of_head? hhead)

theorem steps_join (h : isAbsolute name = false) :
    steps (join base name) = steps base ++ steps name := by
  rw [join, h, Bool.false_or]
  split
  · next hempty =>
    rw [String.isEmpty_iff.mp hempty]
    rfl
  split
  · next hslash =>
    obtain ⟨before, hbefore⟩ := List.getLast?_eq_some_iff.mp (beq_iff_eq.mp hslash)
    rw [steps_eq, steps_eq, steps_eq, String.toList_append, hbefore, List.append_assoc,
      List.singleton_append, stepsOf_append_slash, stepsOf_append_slash, stepsOf_nil,
      List.append_nil]
  · rw [steps_eq, steps_eq, steps_eq, String.toList_append, String.toList_append,
      List.append_assoc]
    exact stepsOf_append_slash base.toList name.toList

theorem isAbsolute_join (h : isAbsolute name = false) :
    isAbsolute (join base name) = isAbsolute base := by
  rw [join, h, Bool.false_or]
  split
  · next hempty =>
    rw [h, String.isEmpty_iff.mp hempty]
    rfl
  · next hempty =>
    obtain ⟨c, r, hbase⟩ := List.exists_cons_of_ne_nil
      (mt String.toList_eq_nil_iff.mp (mt String.isEmpty_iff.mpr hempty))
    split <;> simp [isAbsolute, hbase]

/-! ### The path above -/

theorem stepsOf_trimReversed (r : List Char) :
    stepsOf (trimReversed r).reverse <+: stepsOf r.reverse := by
  fun_induction trimReversed r with
  | case1 => exact List.prefix_refl _
  | case2 r _ ih =>
    rw [List.reverse_cons, stepsOf_append_slash, stepsOf_nil, List.append_nil]
    exact ih
  | case3 r ih =>
    have hsteps : stepsOf ('.' :: '/' :: r).reverse =
        stepsOf ('/' :: r).reverse ++ [String.ofList ['.']] := by
      have hdot : stepsOf ['.'] = [String.ofList ['.']] := rfl
      rw [List.reverse_cons, List.reverse_cons, List.append_assoc, List.singleton_append,
        stepsOf_append_slash, stepsOf_append_slash, stepsOf_nil, List.append_nil, hdot]
    rw [hsteps]
    exact ih.trans (List.prefix_append _ _)
  | case4 => exact List.prefix_refl _

theorem trimReversed_suffix (r : List Char) : trimReversed r <:+ r := by
  fun_induction trimReversed r with
  | case1 => exact List.suffix_refl _
  | case2 r _ ih => exact ih.trans (List.suffix_cons _ _)
  | case3 r ih => exact ih.trans (List.suffix_cons _ _)
  | case4 => exact List.suffix_refl _

/-- What stands before the last separator is a part of the text that ends in one, if any. -/
theorem fst_splitLast (s : List Char) :
    '/' ∉ s ∧ (splitLast s).1 = [] ∨ ∃ before after, s = before ++ '/' :: after ∧ '/' ∉ after ∧
      (splitLast s).1 = before ++ ['/'] := by
  rw [splitLast]
  dsimp only
  by_cases hslash : '/' ∈ s.reverse
  · obtain ⟨after, before, hs, hafter⟩ := List.eq_append_cons_of_mem hslash
    have htake : s.reverse.takeWhile (· != '/') = after := by
      rw [hs, List.takeWhile_append_of_pos]
      · simp
      · intro c hc
        have hne : c ≠ '/' := fun h => hafter (h ▸ hc)
        simpa using hne
    have hs' : s = before.reverse ++ '/' :: after.reverse := by
      rw [← List.reverse_reverse s, hs]
      simp
    refine .inr ⟨before.reverse, after.reverse, hs', by simpa using hafter, ?_⟩
    rw [htake]
    conv_lhs => rw [hs', List.append_cons]
    apply List.take_left'
    simp
    omega
  · have htake : s.reverse.takeWhile (· != '/') = s.reverse := by
      rw [List.takeWhile_eq_self_iff]
      intro c hc
      have hne : c ≠ '/' := fun h => hslash (h ▸ hc)
      simpa using hne
    exact .inl ⟨by simpa using hslash, by simp [htake]⟩

theorem exists_trimmed_of_parent? (h : parent? p = some q) :
    trimmed p ≠ [] ∧ trimmed p ≠ ['/'] ∧
      q = String.ofList (trimReversed (splitLast (trimmed p)).1.reverse).reverse := by
  simp only [parent?] at h
  split at h
  · cases h
  next htrimmed =>
  simp only [Bool.or_eq_true, List.isEmpty_iff, beq_iff_eq, not_or] at htrimmed
  exact ⟨htrimmed.1, htrimmed.2, (Option.some.inj h).symm⟩

theorem eq_nil_of_trimReversed {r s : List Char} (h : trimReversed r = '/' :: s) : s = [] := by
  fun_induction trimReversed r with
  | case1 => exact (List.cons.inj h).2.symm
  | case2 r _ ih => exact ih h
  | case3 r ih => exact ih h
  | case4 r hone hslash =>
    subst h
    exact (hslash s rfl).elim

/-- The last step of a trimmed path comes after what stands before its last separator. -/
theorem stepsOf_trimmed (hne : trimmed p ≠ []) (hroot : trimmed p ≠ ['/']) :
    ∃ name, stepsOf (trimmed p) = stepsOf (splitLast (trimmed p)).1 ++ [name] := by
  rcases fst_splitLast (trimmed p) with ⟨hslash, hfirst⟩ | ⟨before, after, hp, hslash, hfirst⟩
  · exact ⟨_, by rw [hfirst, stepsOf_of_notMem hslash hne, stepsOf_nil, List.nil_append]⟩
  · have hafter : after ≠ [] := by
      rintro rfl
      have hreversed : trimReversed p.toList.reverse = '/' :: before.reverse := by
        rw [← List.reverse_reverse (trimReversed _), ← trimmed, hp]
        simp
      have hnil := eq_nil_of_trimReversed hreversed
      rw [List.reverse_eq_nil_iff] at hnil
      exact hroot (by rw [hp, hnil]; rfl)
    refine ⟨String.ofList after, ?_⟩
    rw [hfirst, hp, stepsOf_append_slash, stepsOf_append_slash, stepsOf_nil, List.append_nil,
      stepsOf_of_notMem hslash hafter]

/-- The path above another one has the first of its steps, but not all. -/
theorem exists_steps_of_parent? (h : parent? p = some q) :
    ∃ name rest, steps p = steps q ++ name :: rest := by
  obtain ⟨hne, hroot, rfl⟩ := exists_trimmed_of_parent? h
  obtain ⟨name, htrimmed⟩ := stepsOf_trimmed hne hroot
  obtain ⟨inner, hinner⟩ := stepsOf_trimReversed (splitLast (trimmed p)).1.reverse
  obtain ⟨outer, houter⟩ := stepsOf_trimReversed p.toList.reverse
  rw [List.reverse_reverse] at hinner houter
  rw [← trimmed, htrimmed, ← hinner, ← steps_eq] at houter
  rw [← houter, steps_eq, String.toList_ofList]
  cases inner with
  | nil => exact ⟨name, outer, by simp⟩
  | cons first inner => exact ⟨first, inner ++ name :: outer, by simp⟩

theorem steps_parent? (h : parent? p = some q) : steps q <+: steps p := by
  obtain ⟨name, rest, hsteps⟩ := exists_steps_of_parent? h
  exact ⟨name :: rest, hsteps.symm⟩

theorem toList_parent?_prefix (h : parent? p = some q) : q.toList <+: p.toList := by
  have hsplit : (splitLast (trimmed p)).1 <+: trimmed p := List.take_prefix _ _
  have hinner := List.reverse_prefix.mpr (trimReversed_suffix (splitLast (trimmed p)).1.reverse)
  have houter := List.reverse_prefix.mpr (trimReversed_suffix p.toList.reverse)
  rw [List.reverse_reverse] at hinner houter
  rw [(exists_trimmed_of_parent? h).2.2, String.toList_ofList]
  exact hinner.trans (hsplit.trans houter)

/-- The path above another one starts where that one does. -/
theorem isAbsolute_parent? (h : parent? p = some q) (hne : q.isEmpty = false) :
    isAbsolute q = isAbsolute p := by
  obtain ⟨rest, hp⟩ := toList_parent?_prefix h
  have hchars : q.toList ≠ [] := by
    intro hnil
    rw [String.toList_eq_nil_iff] at hnil
    simp [hnil] at hne
  rw [isAbsolute, isAbsolute, ← hp, List.head?_append_of_ne_nil _ hchars]

/-- A path that another one goes on from: it has the first of its steps, from the same start. -/
structure LeadsTo (q p : String) : Prop where
  steps : steps q <+: steps p
  isAbsolute : q.isEmpty = false → isAbsolute q = isAbsolute p

theorem LeadsTo.refl (p : String) : LeadsTo p p := ⟨List.prefix_refl _, fun _ => rfl⟩

theorem LeadsTo.parent? {above : String} (h : LeadsTo q p) (hne : q.isEmpty = false)
    (habove : parent? q = some above) : LeadsTo above p where
  steps := (steps_parent? habove).trans h.steps
  isAbsolute hempty := (isAbsolute_parent? habove hempty).trans (h.isAbsolute hne)

end Path

/-! ## Places -/

namespace FileSystem

variable {fs fs' fs'' : FileSystem} {cwd l place : Location} {p q : String} {steps : List String}

/-- Where a path starts. -/
def startOf (cwd : Location) (p : String) : Location := if Path.isAbsolute p then [] else cwd

/-- The place that a path leads to if nothing stands in its way. -/
def placeOf (cwd : Location) (p : String) : Location := (Path.steps p).foldl step (startOf cwd p)

theorem eq_of_walk (h : fs.walk place steps = .ok l) : l = steps.foldl step place := by
  induction steps generalizing place with
  | nil =>
    cases h
    rfl
  | cons s rest ih =>
    rw [walk] at h
    split at h
    · cases h
    dsimp only at h
    split at h
    · next hrest =>
      rw [List.isEmpty_iff] at hrest
      cases h
      rw [hrest]
      rfl
    split at h
    · cases h
    · cases h
    · exact ih h

theorem resolve_eq_ok_iff : fs.resolve cwd p = .ok l ↔
    '\x00' ∉ p.toList ∧ p.isEmpty = false ∧ p.utf8ByteSize ≤ maxPathBytes ∧
      fs.walk (startOf cwd p) (Path.steps p) = .ok l := by
  have hstart : (if Path.isAbsolute p then [] else cwd) = startOf cwd p := rfl
  rw [resolve, hstart]
  by_cases hzero : '\x00' ∈ p.toList
  · simp [hzero]
  by_cases hempty : p.isEmpty = true
  · simp [hzero, hempty]
  by_cases hlong : maxPathBytes < p.utf8ByteSize
  · simp [hzero, hempty, hlong, Nat.not_le.mpr hlong]
  · simp [hzero, hempty, hlong, Nat.le_of_not_lt hlong]

theorem eq_placeOf_of_resolve (h : fs.resolve cwd p = .ok l) : l = placeOf cwd p :=
  eq_of_walk (resolve_eq_ok_iff.mp h).2.2.2

theorem mem_passed_of_prefix {first : List String} (hne : first ≠ []) (h : first <+: steps)
    (place : Location) : first.foldl step place ∈ passed place steps := by
  obtain ⟨after, rfl⟩ := h
  induction first generalizing place with
  | nil => exact absurd rfl hne
  | cons s first ih =>
    rw [List.cons_append, passed, List.foldl_cons]
    by_cases hfirst : first = []
    · subst hfirst
      exact List.mem_cons_self
    · exact List.mem_cons_of_mem _ (ih hfirst _)

/-! ## What making directories changes -/

/-- What there is was there before, but for directories at some of the places where nothing was. -/
def MadeAt (places : List Location) (fs fs' : FileSystem) : Prop :=
  ∀ l, fs'.node? l = fs.node? l ∨
    l ∈ places ∧ fs.node? l = none ∧ ∃ mode, fs'.node? l = some (.directory mode)

theorem MadeAt.refl (places : List Location) (fs : FileSystem) : MadeAt places fs fs :=
  fun _ => .inl rfl

theorem MadeAt.trans {places : List Location} (h : MadeAt places fs fs')
    (h' : MadeAt places fs' fs'') : MadeAt places fs fs'' := by
  intro l
  rcases h' l with hsame | ⟨hplace, hnone, mode, hmade⟩
  · rcases h l with hfirst | ⟨hplace, hnone, mode, hmade⟩
    · exact .inl (hsame.trans hfirst)
    · exact .inr ⟨hplace, hnone, mode, hsame.trans hmade⟩
  · rcases h l with hfirst | ⟨_, _, mode', hmade'⟩
    · exact .inr ⟨hplace, hfirst.symm.trans hnone, mode, hmade⟩
    · rw [hnone] at hmade'
      cases hmade'

/-- A directory that was made stands on every path whose first steps lead there. -/
theorem makeDirectory_madeAt (fs : FileSystem) (hne : q.isEmpty = false)
    (hsteps : Path.steps q <+: Path.steps p) (hstart : Path.isAbsolute q = Path.isAbsolute p) :
    MadeAt (placesOn cwd p) fs (fs.makeDirectory cwd q).1 := by
  rw [makeDirectory]
  split
  · exact .refl _ fs
  next l hl =>
  split
  · exact .refl _ fs
  next hnone =>
  have hplace := eq_placeOf_of_resolve hl
  have hroot : l ≠ [] := by
    rintro rfl
    cases hnone
  have hmem : l ∈ placesOn cwd p := by
    have hnonempty : Path.steps q ≠ [] := by
      intro hnil
      have habsolute := Path.isAbsolute_of_steps_eq_nil hnil hne
      rw [placeOf, hnil, startOf, if_pos habsolute] at hplace
      exact hroot hplace
    rw [hplace, placesOn, ← hstart]
    exact mem_passed_of_prefix hnonempty hsteps _
  rcases fs.attempt_cases l (.directory 0o755) with ⟨f, _, h⟩ | ⟨_, h⟩
  · rw [h]
    exact .refl _ fs
  · rw [h]
    intro l'
    rw [node?_put]
    split
    · next hl' =>
      obtain ⟨rfl, _⟩ := hl'
      exact .inr ⟨hmem, hnone, _, rfl⟩
    · exact .inl rfl

/-- Making a directory makes those that are missing on its path, and nothing else. -/
theorem makeDirectories_madeAt (fs : FileSystem) (cwd : Location) (p : String) :
    MadeAt (placesOn cwd p) fs (fs.makeDirectories cwd p).1 :=
  makeDirectoriesFrom_rel (.refl _) .trans (Path.LeadsTo.parent? · · ·)
    (fun fs _ hq hne => makeDirectory_madeAt fs hne hq.steps (hq.isAbsolute hne)) _ fs
    (Path.LeadsTo.refl p)

/-! ## Directories that could not be made -/

/-- The steps before the last one lead to a directory. -/
theorem exists_walk_of_append {first : List String} {s : String} {rest : List String}
    (hne : first ≠ []) (h : fs.walk place (first ++ s :: rest) = .ok l) :
    ∃ l' mode, fs.walk place first = .ok l' ∧ fs.node? l' = some (.directory mode) := by
  induction first generalizing place with
  | nil => exact absurd rfl hne
  | cons f first ih =>
    rw [List.cons_append, walk] at h
    rw [walk]
    split at h
    · cases h
    next hlong =>
    rw [if_neg hlong]
    dsimp only at h ⊢
    rw [if_neg (by simp)] at h
    split at h
    · cases h
    · cases h
    next mode hnode =>
    cases first with
    | nil => exact ⟨_, mode, rfl, hnode⟩
    | cons g first =>
      rw [if_neg (by simp)]
      exact ih (List.cons_ne_nil _ _) h

/-- Where a path leads somewhere, the path above it leads to a directory. -/
theorem isDirectory_parent? (h : fs.resolve cwd p = .ok l) (hq : Path.parent? p = some q)
    (hne : q.isEmpty = false) : fs.isDirectory cwd q = true := by
  obtain ⟨name, rest, hsteps⟩ := Path.exists_steps_of_parent? hq
  obtain ⟨tail, hp⟩ := Path.toList_parent?_prefix hq
  obtain ⟨hzero, -, hlong, hwalk⟩ := resolve_eq_ok_iff.mp h
  obtain ⟨l', mode, hwalk', hnode⟩ : ∃ l' mode,
      fs.walk (startOf cwd q) (Path.steps q) = .ok l' ∧
        fs.node? l' = some (.directory mode) := by
    have hstart : startOf cwd q = startOf cwd p := by
      rw [startOf, startOf, Path.isAbsolute_parent? hq hne]
    rw [hsteps, ← hstart] at hwalk
    by_cases hnil : Path.steps q = []
    · have habsolute := Path.isAbsolute_of_steps_eq_nil hnil hne
      refine ⟨[], 0o755, ?_, rfl⟩
      rw [hnil, startOf, if_pos habsolute]
      rfl
    · exact exists_walk_of_append hnil hwalk
  have hsize : q.utf8ByteSize ≤ p.utf8ByteSize := by
    have hp' : p = q ++ String.ofList tail := by
      rw [← String.toList_inj, String.toList_append, String.toList_ofList, hp]
    rw [hp', String.utf8ByteSize_append]
    exact Nat.le_add_right _ _
  have hresolve : fs.resolve cwd q = .ok l' := resolve_eq_ok_iff.mpr
    ⟨fun hmem => hzero (hp ▸ List.mem_append_left _ hmem), hne, hsize.trans hlong, hwalk'⟩
  have hstat : fs.stat cwd q = .ok (.directory mode) :=
    stat_eq_ok_iff.mpr ⟨l', hresolve, hnode, fun _ => rfl⟩
  rw [isDirectory, hstat]
  rfl

theorem exists_resolve_of_isDirectory (h : fs.isDirectory cwd p = true) :
    ∃ l, fs.resolve cwd p = .ok l := by
  obtain ⟨n, hstat⟩ := pathExists_iff.mp (pathExists_of_isDirectory h)
  obtain ⟨l, hl, _⟩ := stat_eq_ok_iff.mp hstat
  exact ⟨l, hl⟩

/-- A reliable system has no way to a directory that it cannot make for want of one above. -/
theorem isDirectory_of_makeDirectory_notFound (hreliable : fs.Reliable)
    (h : fs.makeDirectory cwd p = (fs', .error .notFound)) : fs'.isDirectory cwd p = false := by
  rw [makeDirectory] at h
  split at h
  · next e he =>
    cases h
    rw [← Bool.not_eq_true]
    intro hdirectory
    obtain ⟨l, hl⟩ := exists_resolve_of_isDirectory hdirectory
    rw [he] at hl
    cases hl
  · split at h
    · cases h
    · rw [attempt_of_reliable hreliable] at h
      cases h

/-- Where a reliable system fails to make directories, there is none at the path. -/
theorem isDirectory_of_makeDirectoriesFrom_error {fuel : Nat} {e : OsError}
    (hreliable : fs.Reliable) (h : makeDirectoriesFrom cwd fuel fs p = (fs', .error e)) :
    fs'.isDirectory cwd p = false := by
  fun_induction makeDirectoriesFrom cwd fuel fs p
  case case1 => cases h
  case case2 => cases h
  case case3 fs p _ tried htried fuel above hparent between e' hbetween ih =>
    cases h
    have htried' := (makeDirectory_sameBut fs cwd p).reliable hreliable
    rw [htried] at htried'
    rw [← Bool.not_eq_true]
    intro hdirectory
    obtain ⟨l, hl⟩ := exists_resolve_of_isDirectory hdirectory
    cases hempty : above.isEmpty with
    | true =>
      rw [makeDirectoriesFrom.eq_def] at hbetween
      simp [hempty] at hbetween
    | false =>
      have habove := ih htried' hbetween
      rw [isDirectory_parent? hl hparent hempty] at habove
      cases habove
  case case4 => cases h
  case case5 => cases h
  case case6 hdirectory _ =>
    cases h
    simpa using hdirectory
  case case7 htried _ =>
    cases h
    exact isDirectory_of_makeDirectory_notFound hreliable htried
  case case8 => cases h
  case case9 hdirectory =>
    cases h
    simpa using hdirectory

/-- Where a reliable system fails to make the directories of a file, it cannot be read. -/
theorem not_read_of_makeDirectories_error {directory text : String} {e : OsError}
    (hreliable : fs.Reliable) (hparent : Path.parent? p = some directory)
    (h : fs.makeDirectories cwd directory = (fs', .error e)) : fs'.read cwd p ≠ .ok text := by
  intro hread
  obtain ⟨mode, hstat⟩ := read_eq_ok_iff.mp hread
  obtain ⟨l, hl, _⟩ := stat_eq_ok_iff.mp hstat
  cases hempty : directory.isEmpty with
  | true =>
    rw [makeDirectories, makeDirectoriesFrom.eq_def] at h
    simp [hempty] at h
  | false =>
    have hdirectory := isDirectory_of_makeDirectoriesFrom_error hreliable h
    rw [isDirectory_parent? hl hparent hempty] at hdirectory
    cases hdirectory

/-! ## What writing files into a directory changes -/

/-- The place of a file in a directory. -/
theorem placeOf_join {directory name : String} (h : Path.IsFileName name) :
    placeOf cwd (Path.join directory name) = placeOf cwd directory ++ [name] := by
  have hstep : ∀ place : Location, step place name = place ++ [name] := fun place => by
    simp [step, h.here, h.above]
  rw [placeOf, startOf, Path.isAbsolute_join h.isAbsolute, Path.steps_join h.isAbsolute, h.steps,
    List.foldl_append, List.foldl_cons, hstep]
  rfl

/-- A file system is the one before, but for directories that were made on the path of a directory,
and for files with some names in it, which are new or have kept their permissions. -/
def WrittenInto (cwd : Location) (directory : String) (names : List String)
    (fs fs' : FileSystem) : Prop :=
  ∀ l, fs'.node? l = fs.node? l ∨
    (l ∈ placesOn cwd directory ∧ fs.node? l = none ∧
      ∃ mode, fs'.node? l = some (.directory mode)) ∨
    ((∃ name ∈ names, l = placeOf cwd directory ++ [name]) ∧
      ∃ text mode, fs'.node? l = some (.file text mode) ∧
        ∀ n, fs.node? l = some n → ∃ old, n = .file old mode)

section WrittenInto

variable {directory name text : String} {names : List String}

theorem MadeAt.writtenInto (h : MadeAt (placesOn cwd directory) fs fs') :
    WrittenInto cwd directory names fs fs' :=
  fun l => (h l).imp_right .inl

/-- A file with one of the names was filled. -/
theorem WrittenInto.filled {l : Location} {mode : Nat} (h : WrittenInto cwd directory names fs fs')
    (hname : Path.IsFileName name) (hmem : name ∈ names)
    (hfilled : Filled cwd (Path.join directory name) text fs' l mode fs'') :
    WrittenInto cwd directory names fs fs'' := by
  have hplace := eq_placeOf_of_resolve hfilled.resolve
  rw [placeOf_join hname] at hplace
  subst hplace
  intro l'
  by_cases hl : l' = placeOf cwd directory ++ [name]
  · subst hl
    refine .inr (.inr ⟨⟨name, hmem, rfl⟩, text, mode, ?_, fun n hn => ?_⟩)
    · rw [hfilled.after, if_pos rfl]
    rcases h (placeOf cwd directory ++ [name]) with
      hsame | ⟨_, hnone, _⟩ | ⟨_, old, mode', hfile, hkept⟩
    · exact hfilled.before n (hsame.trans hn)
    · rw [hnone] at hn
      cases hn
    · obtain ⟨old', hmode⟩ := hfilled.before _ hfile
      cases hmode
      exact hkept n hn
  · rw [hfilled.after, if_neg hl]
    exact h l'

/-- A file with one of the names was written, or an attempt was made. -/
theorem WrittenInto.write (h : WrittenInto cwd directory names fs fs')
    (hname : Path.IsFileName name) (hmem : name ∈ names) (text : String) :
    WrittenInto cwd directory names fs (fs'.write cwd (Path.join directory name) text).1 := by
  have hends := fs'.write_ends cwd (Path.join directory name) text
  generalize (fs'.write cwd (Path.join directory name) text).1 = fs'',
    (fs'.write cwd (Path.join directory name) text).2 = answer at hends ⊢
  cases hends with
  | refused => exact h
  | unopened => exact h
  | broken f hf l mode _ hfilled => exact h.filled hname hmem hfilled
  | written l mode _ hfilled => exact h.filled hname hmem hfilled

/-- Directories stay directories and files stay files. -/
theorem WrittenInto.keptKinds (h : WrittenInto cwd directory names fs fs') : fs.KeptKinds fs' := by
  intro l n hn
  rcases h l with hsame | ⟨_, hnone, _⟩ | ⟨_, text, mode, hfile, hkept⟩
  · exact ⟨n, hsame.trans hn, rfl⟩
  · rw [hnone] at hn
    cases hn
  · obtain ⟨old, rfl⟩ := hkept n hn
    exact ⟨_, hfile, rfl⟩

/-- What is read from another file is what was read. -/
theorem WrittenInto.read (h : WrittenInto cwd directory names fs fs')
    (hother : ∀ name ∈ names, placeOf cwd p ≠ placeOf cwd directory ++ [name])
    (hread : fs.read cwd p = .ok text) : fs'.read cwd p = .ok text := by
  obtain ⟨mode, hstat⟩ := read_eq_ok_iff.mp hread
  obtain ⟨l, hl, hnode, hdirectory⟩ := stat_eq_ok_iff.mp hstat
  refine read_eq_ok_iff.mpr ⟨mode, stat_eq_ok_iff.mpr
    ⟨l, resolve_of_keptKinds h.keptKinds hl, ?_, hdirectory⟩⟩
  rcases h l with hsame | ⟨_, hnone, _⟩ | ⟨⟨name, hname, hplace⟩, _⟩
  · exact hsame.trans hnode
  · rw [hnone] at hnode
    cases hnode
  · rw [eq_placeOf_of_resolve hl] at hplace
    exact absurd hplace (hother name hname)

end WrittenInto

end FileSystem
end SchemaSdk
