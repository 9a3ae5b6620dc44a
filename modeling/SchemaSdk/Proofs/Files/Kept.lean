import SchemaSdk.Files.System
import SchemaSdk.Proofs.Lookup

/-!
# What operations on files keep

Making directories and setting permissions keep everything that stands in a file system, with its
text; writing keeps everything but the text of one file. That is so whether they succeed or fail. A
path that led somewhere then leads there still, so what was read is still read, and a file that was
written without an error is read back.
-/
namespace SchemaSdk

theorem bind_eq_ok_iff {ε α β : Type} {x : Except ε α} {f : α → Except ε β} {b : β} :
    (x >>= f) = .ok b ↔ ∃ a, x = .ok a ∧ f a = .ok b := by
  cases x <;> simp [bind, Except.bind]

/-- The text of a file; a directory has none. -/
def Node.text? : Node → Option String
  | .file text _ => some text
  | .directory _ => none

@[simp] theorem Node.isDirectory_withMode (mode : Nat) (n : Node) :
    (n.withMode mode).isDirectory = n.isDirectory := by
  cases n <;> rfl

@[simp] theorem Node.text?_withMode (mode : Nat) (n : Node) :
    (n.withMode mode).text? = n.text? := by
  cases n <;> rfl

namespace FileSystem

/-- The text at a place, if a file is there. -/
def text? (fs : FileSystem) (l : Location) : Option String := (fs.node? l).bind Node.text?

/-- Everything is kept as a file or as a directory. -/
def KeptKinds (fs fs' : FileSystem) : Prop :=
  ∀ l n, fs.node? l = some n → ∃ n', fs'.node? l = some n' ∧ n'.isDirectory = n.isDirectory

/-- Everything is kept as a file or as a directory, and but for some places there are the same files
with the same texts; permissions may differ, and directories may be new. The system has gone on
answering. -/
structure SameBut (places : List Location) (fs fs' : FileSystem) : Prop where
  kinds : fs.KeptKinds fs'
  text? : ∀ l, l ∉ places → fs'.text? l = fs.text? l
  failures : fs'.failures <:+ fs.failures

variable {fs fs' fs'' : FileSystem} {cwd l : Location} {p text : String} {places : List Location}

theorem KeptKinds.refl (fs : FileSystem) : fs.KeptKinds fs := fun _ n hn => ⟨n, hn, rfl⟩

theorem KeptKinds.trans (h : fs.KeptKinds fs') (h' : fs'.KeptKinds fs'') : fs.KeptKinds fs'' := by
  intro l n hn
  obtain ⟨n', hn', hkind⟩ := h l n hn
  obtain ⟨n'', hn'', hkind'⟩ := h' l n' hn'
  exact ⟨n'', hn'', hkind'.trans hkind⟩

theorem SameBut.refl (places : List Location) (fs : FileSystem) : SameBut places fs fs :=
  ⟨.refl fs, fun _ _ => rfl, List.suffix_refl _⟩

theorem SameBut.trans (h : SameBut places fs fs') (h' : SameBut places fs' fs'') :
    SameBut places fs fs'' :=
  ⟨h.kinds.trans h'.kinds, fun l hl => (h'.text? l hl).trans (h.text? l hl),
    h'.failures.trans h.failures⟩

/-- Where no text has changed at all, none has changed but for some places. -/
theorem SameBut.weaken (h : SameBut [] fs fs') (places : List Location) : SameBut places fs fs' :=
  ⟨h.kinds, fun l _ => h.text? l List.not_mem_nil, h.failures⟩

/-! ## Paths -/

/-- Directories that are kept lead where they led. -/
theorem walk_of_keptKinds (h : fs.KeptKinds fs') {place : Location} {steps : List String}
    (hwalk : fs.walk place steps = .ok l) : fs'.walk place steps = .ok l := by
  induction steps generalizing place with
  | nil => exact hwalk
  | cons s rest ih =>
    rw [walk] at hwalk ⊢
    by_cases hlong : maxNameBytes < s.utf8ByteSize
    · rw [if_pos hlong] at hwalk
      cases hwalk
    · rw [if_neg hlong] at hwalk ⊢
      dsimp only at hwalk ⊢
      by_cases hrest : rest.isEmpty = true
      · rw [if_pos hrest] at hwalk ⊢
        exact hwalk
      · rw [if_neg hrest] at hwalk ⊢
        split at hwalk
        case h_1 => cases hwalk
        case h_2 => cases hwalk
        case h_3 mode hnode =>
          obtain ⟨n', hnode', hkind⟩ := h _ _ hnode
          cases n' with
          | file text mode' => cases hkind
          | directory mode' =>
            rw [hnode']
            exact ih hwalk

theorem resolve_of_keptKinds (h : fs.KeptKinds fs') (hresolve : fs.resolve cwd p = .ok l) :
    fs'.resolve cwd p = .ok l := by
  rw [resolve] at hresolve ⊢
  split_ifs at hresolve ⊢
  · exact walk_of_keptKinds h hresolve
  · exact walk_of_keptKinds h hresolve

theorem stat_eq_ok_iff {n : Node} : fs.stat cwd p = .ok n ↔
    ∃ l, fs.resolve cwd p = .ok l ∧ fs.node? l = some n ∧
      (Path.namesDirectory p = true → n.isDirectory = true) := by
  cases hresolve : fs.resolve cwd p with
  | error e => simp [stat, hresolve, bind, Except.bind]
  | ok l =>
    cases hnode : fs.node? l with
    | none => simp [stat, hresolve, bind, Except.bind, hnode]
    | some n' =>
      cases n' with
      | file text mode =>
        by_cases hdirectory : Path.namesDirectory p = true
        · simp only [stat, hresolve, bind, Except.bind, hnode, hdirectory, if_true]
          constructor
          · intro h
            cases h
          · rintro ⟨l', hl', hn, hnone⟩
            cases hl'
            rw [hnode] at hn
            cases hn
            cases hnone trivial
        · simp [stat, hresolve, bind, Except.bind, hnode, hdirectory]
      | directory mode =>
        simp [stat, hresolve, bind, Except.bind, hnode]
        rintro rfl
        simp [Node.isDirectory]

theorem read_eq_ok_iff : fs.read cwd p = .ok text ↔ ∃ mode, fs.stat cwd p = .ok (.file text mode) := by
  cases hstat : fs.stat cwd p with
  | error e => simp [read, hstat, bind, Except.bind]
  | ok n => cases n <;> simp [read, hstat, bind, Except.bind]

theorem pathExists_iff : fs.pathExists cwd p = true ↔ ∃ n, fs.stat cwd p = .ok n := by
  rw [pathExists]
  cases fs.stat cwd p <;> simp [Except.isOk, Except.toBool]

theorem pathExists_of_read (h : fs.read cwd p = .ok text) : fs.pathExists cwd p = true := by
  obtain ⟨mode, hstat⟩ := read_eq_ok_iff.mp h
  exact pathExists_iff.mpr ⟨_, hstat⟩

/-- What a path led to is there where all kinds are kept. -/
theorem pathExists_of_keptKinds (h : fs.KeptKinds fs') (hexists : fs.pathExists cwd p = true) :
    fs'.pathExists cwd p = true := by
  obtain ⟨n, hstat⟩ := pathExists_iff.mp hexists
  obtain ⟨l, hl, hn, hdirectory⟩ := stat_eq_ok_iff.mp hstat
  obtain ⟨n', hn', hkind⟩ := h l n hn
  refine pathExists_iff.mpr ⟨n', stat_eq_ok_iff.mpr ⟨l, resolve_of_keptKinds h hl, hn', ?_⟩⟩
  rw [hkind]
  exact hdirectory

/-- What was read is still read where no text has changed. -/
theorem SameBut.read (h : SameBut [] fs fs') (hread : fs.read cwd p = .ok text) :
    fs'.read cwd p = .ok text := by
  obtain ⟨mode, hstat⟩ := read_eq_ok_iff.mp hread
  obtain ⟨l, hl, hn, hdirectory⟩ := stat_eq_ok_iff.mp hstat
  obtain ⟨n', hn', hkind⟩ := h.kinds l _ hn
  have htext := h.text? l List.not_mem_nil
  cases n' with
  | directory mode' => cases hkind
  | file text' mode' =>
    simp only [FileSystem.text?, hn, hn', Option.bind_some, Node.text?, Option.some.injEq] at htext
    subst htext
    exact read_eq_ok_iff.mpr ⟨mode', stat_eq_ok_iff.mpr
      ⟨l, resolve_of_keptKinds h.kinds hl, hn', hdirectory⟩⟩

/-! ## Calls on the system -/

theorem node?_put (fs : FileSystem) (l : Location) (n : Node) (l' : Location) :
    (fs.put l n).node? l' = if l' = l ∧ l ≠ [] then some n else fs.node? l' := by
  have hput : (fs.put l n).nodes.lookup l' = if l' = l then some n else fs.nodes.lookup l' := by
    rw [← lookup_set, put]
    split <;> rfl
  by_cases hl : l' = []
  · subst hl
    by_cases hl' : l = [] <;> simp [node?, hl', Ne.symm]
  · by_cases hsame : l' = l
    · subst hsame
      simp [node?, hput, hl]
    · simp [node?, hput, hl, hsame]

@[simp] theorem node?_called (fs : FileSystem) (l : Location) : fs.called.node? l = fs.node? l := rfl

@[simp] theorem failures_put (fs : FileSystem) (l : Location) (n : Node) :
    (fs.put l n).failures = fs.failures := by
  rw [put]
  split <;> rfl

theorem failures_called (fs : FileSystem) : fs.called.failures <:+ fs.failures :=
  List.tail_suffix _

theorem sameBut_called (fs : FileSystem) : SameBut [] fs fs.called :=
  ⟨.refl fs, fun _ _ => rfl, fs.failures_called⟩

/-- A node that is put where nothing of another kind stood, with the text that was there, changes no
text. -/
theorem sameBut_put {n : Node}
    (hkind : ∀ n', fs.node? l = some n' → n.isDirectory = n'.isDirectory)
    (htext : n.text? = fs.text? l) : SameBut [] fs (fs.called.put l n) := by
  refine ⟨fun l' n' hn' => ?_, fun l' _ => ?_, ?_⟩
  · rw [node?_put, node?_called]
    by_cases hl : l' = l ∧ l ≠ []
    · rw [if_pos hl]
      rw [hl.1] at hn'
      exact ⟨n, rfl, hkind n' hn'⟩
    · rw [if_neg hl]
      exact ⟨n', hn', rfl⟩
  · rw [FileSystem.text?, node?_put, node?_called]
    by_cases hl : l' = l ∧ l ≠ []
    · obtain ⟨rfl, _⟩ := hl
      rw [if_pos ⟨rfl, ‹_›⟩]
      exact htext
    · rw [if_neg hl]
      rfl
  · rw [failures_put]
    exact fs.failures_called

/-- A call that puts a node fails and changes nothing, or puts it. -/
theorem attempt_cases (fs : FileSystem) (l : Location) (n : Node) :
    (∃ f, fs.failure? = some f ∧ fs.attempt l n = (fs.called, .error f.error)) ∨
      fs.failure? = none ∧ fs.attempt l n = (fs.called.put l n, .ok ()) := by
  rw [attempt]
  cases fs.failure? with
  | some f => exact .inl ⟨f, rfl, rfl⟩
  | none => exact .inr ⟨rfl, rfl⟩

theorem sameBut_attempt {n : Node}
    (hkind : ∀ n', fs.node? l = some n' → n.isDirectory = n'.isDirectory)
    (htext : n.text? = fs.text? l) : SameBut [] fs (fs.attempt l n).1 := by
  rcases fs.attempt_cases l n with ⟨f, _, h⟩ | ⟨_, h⟩
  · rw [h]
    exact sameBut_called fs
  · rw [h]
    exact sameBut_put hkind htext

/-! ### Systems that do what they should -/

/-- No call is going to fail that need not. -/
def Reliable (fs : FileSystem) : Prop := ∀ a ∈ fs.failures, a = none

theorem Reliable.failure? (h : fs.Reliable) : fs.failure? = none := by
  rw [FileSystem.failure?]
  cases hfailures : fs.failures with
  | nil => rfl
  | cons a rest => exact h a (hfailures ▸ List.mem_cons_self)

theorem SameBut.reliable (h : SameBut places fs fs') (hreliable : fs.Reliable) : fs'.Reliable :=
  fun a ha => hreliable a (h.failures.subset ha)

theorem attempt_of_reliable (h : fs.Reliable) (l : Location) (n : Node) :
    fs.attempt l n = (fs.called.put l n, .ok ()) := by
  rw [attempt, h.failure?]

/-! ## Making directories -/

theorem makeDirectory_sameBut (fs : FileSystem) (cwd : Location) (p : String) :
    SameBut [] fs (fs.makeDirectory cwd p).1 := by
  rw [makeDirectory]
  split
  · exact .refl [] fs
  split
  · exact .refl [] fs
  next hnone =>
  refine sameBut_attempt (fun n' hn' => ?_) ?_
  · rw [hnone] at hn'
    cases hn'
  · rw [text?, hnone]
    rfl

/-- What making one directory does to file systems, making several does, as long as the paths above
the first one are fit for it. -/
theorem makeDirectoriesFrom_rel {R : FileSystem → FileSystem → Prop} (hrefl : ∀ fs, R fs fs)
    (htrans : ∀ {fs fs' fs''}, R fs fs' → R fs' fs'' → R fs fs'') {Fits : String → Prop}
    (habove : ∀ {q above}, Fits q → q.isEmpty = false → Path.parent? q = some above → Fits above)
    (hmake : ∀ fs {q}, Fits q → q.isEmpty = false → R fs (fs.makeDirectory cwd q).1) (fuel : Nat)
    (fs : FileSystem) (hp : Fits p) : R fs (makeDirectoriesFrom cwd fuel fs p).1 := by
  have hone : ∀ {fs made : FileSystem} {answer : Except OsError Unit} {q : String}, Fits q →
      ¬q.isEmpty = true → fs.makeDirectory cwd q = (made, answer) → R fs made := by
    intro fs made answer q hq hne hmade
    have h := hmake fs hq (by simpa using hne)
    rwa [hmade] at h
  have hmany : ∀ {fs between : FileSystem} {answer : Except OsError Unit} {fuel : Nat}
      {above : String}, (Fits above → R fs (makeDirectoriesFrom cwd fuel fs above).1) →
      Fits above → makeDirectoriesFrom cwd fuel fs above = (between, answer) → R fs between := by
    intro fs between answer fuel above ih hfits hbetween
    have h := ih hfits
    rwa [hbetween] at h
  fun_induction makeDirectoriesFrom cwd fuel fs p
  case case1 => exact hrefl _
  case case2 hne made hmade => exact hone hp hne hmade
  case case3 hne tried htried fuel above hparent between e hbetween ih =>
    exact htrans (hone hp hne htried) (hmany ih (habove hp (by simpa using hne) hparent) hbetween)
  case case4 hne tried htried fuel above hparent between hbetween made hmade ih =>
    have h := hmany ih (habove hp (by simpa using hne) hparent) hbetween
    exact htrans (htrans (hone hp hne htried) h) (hone hp hne hmade)
  case case5 hne tried htried fuel above hparent between hbetween made e hmade _ ih |
      case6 hne tried htried fuel above hparent between hbetween made e hmade _ ih =>
    have h := hmany ih (habove hp (by simpa using hne) hparent) hbetween
    exact htrans (htrans (hone hp hne htried) h) (hone hp hne hmade)
  case case7 hne tried htried _ => exact hone hp hne htried
  case case8 hne tried e _ htried _ | case9 hne tried e _ htried _ => exact hone hp hne htried

theorem makeDirectories_sameBut (fs : FileSystem) (cwd : Location) (p : String) :
    SameBut [] fs (fs.makeDirectories cwd p).1 :=
  makeDirectoriesFrom_rel (.refl []) .trans (fun _ _ _ => trivial)
    (fun fs q _ _ => makeDirectory_sameBut fs cwd q) _ _ trivial

/-- A directory that was made is there. -/
theorem pathExists_of_makeDirectory (h : fs.makeDirectory cwd p = (fs', .ok ())) :
    fs'.pathExists cwd p = true := by
  have hkinds := (makeDirectory_sameBut fs cwd p).kinds
  rw [h] at hkinds
  rw [makeDirectory] at h
  split at h
  · cases h
  next l hl =>
  split at h
  · cases h
  next hnone =>
  rcases fs.attempt_cases l (.directory 0o755) with ⟨f, _, hfailed⟩ | ⟨_, hmade⟩
  · rw [hfailed] at h
    cases h
  rw [hmade] at h
  cases h
  have hroot : l ≠ [] := by
    rintro rfl
    cases hnone
  have hnode : (fs.called.put l (.directory 0o755)).node? l = some (.directory 0o755) := by
    rw [node?_put, if_pos ⟨rfl, hroot⟩]
  exact pathExists_iff.mpr
    ⟨_, stat_eq_ok_iff.mpr ⟨l, resolve_of_keptKinds hkinds hl, hnode, fun _ => rfl⟩⟩

theorem pathExists_of_isDirectory (h : fs.isDirectory cwd p = true) :
    fs.pathExists cwd p = true := by
  rw [isDirectory] at h
  split at h
  · next n hstat => exact pathExists_iff.mpr ⟨n, hstat⟩
  · cases h

/-- Once directories were made, something is at the path, unless it is empty. -/
theorem pathExists_of_makeDirectories (h : fs.makeDirectories cwd p = (fs', .ok ()))
    (hne : p.isEmpty = false) : fs'.pathExists cwd p = true := by
  rw [makeDirectories] at h
  generalize p.length = fuel at h
  fun_induction makeDirectoriesFrom cwd fuel fs p with
  | case1 _ _ _ hempty =>
    rw [hempty] at hne
    cases hne
  | case2 _ _ _ _ made hmade =>
    cases h
    exact pathExists_of_makeDirectory hmade
  | case4 _ _ _ _ _ _ _ _ _ _ made hmade =>
    cases h
    exact pathExists_of_makeDirectory hmade
  | case5 _ _ _ _ _ _ _ _ _ _ _ _ _ hdirectory =>
    cases h
    exact pathExists_of_isDirectory hdirectory
  | case8 _ _ _ _ _ _ _ _ hdirectory =>
    cases h
    exact pathExists_of_isDirectory hdirectory
  | case3 => cases h
  | case6 => cases h
  | case7 => cases h
  | case9 => cases h

/-! ## Setting permissions -/

theorem restrict_sameBut (fs : FileSystem) (cwd : Location) (p : String) (mode : Nat) :
    SameBut [] fs (fs.restrict cwd p mode).1 := by
  rw [restrict]
  split
  · next l n hl hn =>
    obtain ⟨l', hl', hnode, _⟩ := stat_eq_ok_iff.mp hn
    rw [hl] at hl'
    cases hl'
    refine sameBut_attempt (fun n' hn' => ?_) ?_
    · rw [hnode] at hn'
      cases hn'
      simp
    · simp [text?, hnode]
  · exact .refl [] fs
  · exact .refl [] fs

/-- A reliable system sets the permissions of what stands where a path leads to. -/
theorem restrict_of_reliable {n : Node} (hreliable : fs.Reliable) (hn : fs.stat cwd p = .ok n)
    (mode : Nat) : (fs.restrict cwd p mode).2 = .ok () := by
  obtain ⟨l, hl, _⟩ := stat_eq_ok_iff.mp hn
  rw [restrict, hl, hn]
  exact congrArg Prod.snd (attempt_of_reliable hreliable l (n.withMode mode))

/-! ## Writing -/

/-- A file at a path has a text, and all else is as it was. If it was there, it has kept its
permissions. -/
structure Filled (cwd : Location) (p text : String) (fs : FileSystem) (l : Location) (mode : Nat)
    (fs' : FileSystem) : Prop where
  resolve : fs.resolve cwd p = .ok l
  file : Path.namesDirectory p = false
  before : ∀ n, fs.node? l = some n → ∃ old, n = .file old mode
  after : ∀ l', fs'.node? l' = if l' = l then some (.file text mode) else fs.node? l'
  failures : fs'.failures <:+ fs.failures

/-- How writing ends. -/
inductive WriteEnds (cwd : Location) (p text : String) (fs : FileSystem) :
    FileSystem → Except OsError Unit → Prop
  /-- No file can be written at the path. -/
  | refused (e : OsError) (he : fs.target cwd p = .error e) : WriteEnds cwd p text fs fs (.error e)
  /-- The system does not open the file. -/
  | unopened (f : Failure) (hf : ¬fs.Reliable) :
    WriteEnds cwd p text fs fs.called (.error f.error)
  /-- The system breaks the writing off. -/
  | broken (f : Failure) (hf : ¬fs.Reliable) (l : Location) (mode : Nat) (fs' : FileSystem)
    (hfilled : Filled cwd p (begun text f.written) fs l mode fs') :
    WriteEnds cwd p text fs fs' (.error f.error)
  | written (l : Location) (mode : Nat) (fs' : FileSystem)
    (hfilled : Filled cwd p text fs l mode fs') : WriteEnds cwd p text fs fs' (.ok ())

theorem not_reliable_of_failure? {f : Failure} (h : fs.failure? = some f) : ¬fs.Reliable := by
  intro hreliable
  rw [hreliable.failure?] at h
  cases h

theorem target_eq_ok {mode : Nat} (h : fs.target cwd p = .ok (l, mode)) :
    fs.resolve cwd p = .ok l ∧ Path.namesDirectory p = false ∧
      ∀ n, fs.node? l = some n → ∃ old, n = .file old mode := by
  obtain ⟨l', hl, h⟩ := bind_eq_ok_iff.mp h
  split at h
  case h_1 => cases h
  case h_2 old mode' hnode =>
    split at h
    · cases h
    next hfile =>
    cases h
    refine ⟨hl, by simpa using hfile, fun n hn => ⟨old, ?_⟩⟩
    rw [hnode] at hn
    exact (Option.some.inj hn).symm
  case h_3 hnode =>
    split at h
    · cases h
    next hfile =>
    cases h
    refine ⟨hl, by simpa using hfile, fun n hn => ?_⟩
    rw [hnode] at hn
    cases hn

/-- A file that was opened and then got a text has that text. -/
theorem filled_of_target {mode : Nat} (h : fs.target cwd p = .ok (l, mode)) (empty text : String) :
    Filled cwd p text fs l mode
      ((fs.called.put l (.file empty mode)).called.put l (.file text mode)) := by
  obtain ⟨hl, hfile, hbefore⟩ := target_eq_ok h
  have hroot : l ≠ [] := by
    rintro rfl
    obtain ⟨old, hold⟩ := hbefore _ rfl
    cases hold
  refine ⟨hl, hfile, hbefore, fun l' => ?_, ?_⟩
  · simp only [node?_put, node?_called, hroot, ne_eq, not_false_eq_true, and_true]
    by_cases hl' : l' = l <;> simp [hl']
  · rw [failures_put]
    refine (failures_called _).trans ?_
    rw [failures_put]
    exact failures_called fs

theorem write_ends (fs : FileSystem) (cwd : Location) (p text : String) :
    WriteEnds cwd p text fs (fs.write cwd p text).1 (fs.write cwd p text).2 := by
  rw [write]
  cases htarget : fs.target cwd p with
  | error e => exact .refused e htarget
  | ok target =>
    obtain ⟨l, mode⟩ := target
    dsimp only
    rcases fs.attempt_cases l (.file "" mode) with ⟨f, hf, hattempt⟩ | ⟨_, hattempt⟩
    · rw [hattempt]
      exact .unopened f (not_reliable_of_failure? hf)
    · rw [hattempt]
      dsimp only
      have hopened : (fs.called.put l (.file "" mode)).failures = fs.called.failures :=
        failures_put _ _ _
      rw [fill]
      cases hf : (fs.called.put l (.file "" mode)).failure? with
      | none => exact .written l mode _ (filled_of_target htarget "" text)
      | some f =>
        refine .broken f (fun hreliable => ?_) l mode _ (filled_of_target htarget "" _)
        have hcalled := (sameBut_called fs).reliable hreliable
        refine not_reliable_of_failure? hf ?_
        rw [Reliable, hopened]
        exact hcalled

namespace Filled

variable {mode : Nat}

theorem keptKinds (h : Filled cwd p text fs l mode fs') : fs.KeptKinds fs' := by
  intro l' n hn
  rw [h.after]
  by_cases hl : l' = l
  · subst hl
    obtain ⟨old, rfl⟩ := h.before n hn
    exact ⟨_, if_pos rfl, rfl⟩
  · rw [if_neg hl]
    exact ⟨n, hn, rfl⟩

/-- A written file is read back. -/
theorem read (h : Filled cwd p text fs l mode fs') : fs'.read cwd p = .ok text := by
  refine read_eq_ok_iff.mpr ⟨mode, stat_eq_ok_iff.mpr
    ⟨l, resolve_of_keptKinds h.keptKinds h.resolve, ?_, fun hdirectory => ?_⟩⟩
  · rw [h.after, if_pos rfl]
  · rw [h.file] at hdirectory
    cases hdirectory

theorem sameBut (h : Filled cwd p text fs l mode fs') : SameBut [l] fs fs' := by
  refine ⟨h.keptKinds, fun l' hl' => ?_, h.failures⟩
  rw [text?, text?, h.after, if_neg (by simpa using hl')]

end Filled

theorem reliable_write (h : fs.Reliable) : (fs.write cwd p text).1.Reliable := by
  have hends := fs.write_ends cwd p text
  generalize (fs.write cwd p text).1 = fs', (fs.write cwd p text).2 = answer at hends ⊢
  cases hends with
  | refused => exact h
  | unopened _ hf => exact absurd h hf
  | broken _ hf => exact absurd h hf
  | written l mode _ hfilled => exact hfilled.sameBut.reliable h

/-- A written file is read back. -/
theorem read_of_write (h : fs.write cwd p text = (fs', .ok ())) : fs'.read cwd p = .ok text := by
  have hends := fs.write_ends cwd p text
  rw [h] at hends
  cases hends with
  | written l mode _ hfilled => exact hfilled.read

/-- A file that can be read can be written, if the system does what it should. -/
theorem exists_target_of_read {old : String} (h : fs.read cwd p = .ok old) :
    ∃ target, fs.target cwd p = .ok target := by
  obtain ⟨mode, hstat⟩ := read_eq_ok_iff.mp h
  obtain ⟨l, hl, hnode, hdirectory⟩ := stat_eq_ok_iff.mp hstat
  have hfile : Path.namesDirectory p = false := by
    cases hp : Path.namesDirectory p with
    | false => rfl
    | true => cases hdirectory hp
  exact ⟨(l, mode), by simp [target, hl, hnode, hfile, bind, Except.bind]⟩

theorem write_of_reliable {old : String} (hreliable : fs.Reliable) (h : fs.read cwd p = .ok old)
    (text : String) : (fs.write cwd p text).2 = .ok () := by
  obtain ⟨target, htarget⟩ := exists_target_of_read h
  have hends := fs.write_ends cwd p text
  generalize (fs.write cwd p text).1 = fs', (fs.write cwd p text).2 = answer at hends
  cases hends with
  | refused e he =>
    rw [htarget] at he
    cases he
  | unopened f hf => exact absurd hreliable hf
  | broken f hf => exact absurd hreliable hf
  | written => rfl

end FileSystem
end SchemaSdk
