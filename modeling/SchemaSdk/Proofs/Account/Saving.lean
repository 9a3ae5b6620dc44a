import SchemaSdk.Proofs.Account.Stored
import SchemaSdk.Proofs.Files.Places

/-!
# Saving the configuration

What saving a configuration leaves on disk. A configuration that was saved is the one that is
loaded. Where saving fails, the file of the old one is as it was, unless the system has broken off
the writing of the new one, or has not let its file be made private.
-/
namespace SchemaSdk.Account

open FileSystem (SameBut begun placeOf)

variable {m m' : Machine} {c : Config} {files : FileSystem} {answer : Except AccountError Unit}

/-- Whether an error says that a configuration was not saved as it should be. -/
def AccountError.isOfSaving : AccountError → Bool
  | .directory _ _ => true
  | .unwritable _ _ => true
  | .permissions _ => true
  | .unrestricted _ _ => true
  | _ => false

/-- How setting permissions ends. -/
inductive RestrictEnds (fs : FileSystem) (cwd : Location) (path : String) :
    Except AccountError Unit → FileSystem → Prop
  | absent (e : OsError) (he : fs.stat cwd path = .error e) :
    RestrictEnds fs cwd path (.error (.permissions e)) fs
  | refused (e : OsError) (files : FileSystem) (hfs : ¬fs.Reliable) (hsame : SameBut [] fs files) :
    RestrictEnds fs cwd path (.error (.unrestricted path e)) files
  | restricted (files : FileSystem) (hexists : fs.pathExists cwd path = true)
    (hsame : SameBut [] fs files) : RestrictEnds fs cwd path (.ok ()) files

theorem restrictPermissions_ends {path : String} {mode : Nat}
    (h : (restrictPermissions path mode).run.run m = (answer, m')) :
    ∃ files, m' = { m with files := files } ∧ RestrictEnds m.files m.cwd path answer files := by
  rw [restrictPermissions, run_get_bind] at h
  cases hstat : m.files.stat m.cwd path with
  | error e =>
    rw [hstat] at h
    cases h
    exact ⟨_, rfl, .absent e hstat⟩
  | ok n =>
    rw [hstat] at h
    dsimp only at h
    rw [run_onFiles] at h
    have hsame := FileSystem.restrict_sameBut m.files m.cwd path mode
    cases hrestrict : (m.files.restrict m.cwd path mode).2 with
    | error e =>
      rw [hrestrict] at h
      cases h
      refine ⟨_, rfl, .refused e _ (fun hreliable => ?_) hsame⟩
      rw [FileSystem.restrict_of_reliable hreliable hstat] at hrestrict
      cases hrestrict
    | ok _ =>
      rw [hrestrict] at h
      cases h
      exact ⟨_, rfl, .restricted _ (FileSystem.pathExists_iff.mpr ⟨n, hstat⟩) hsame⟩

/-- How making sure of a directory ends. -/
inductive EnsureEnds (fs : FileSystem) (cwd : Location) (path : String) :
    Except AccountError Unit → FileSystem → Prop
  | unmade (e : OsError) (files : FileSystem)
    (hmade : fs.makeDirectories cwd path = (files, .error e)) :
    EnsureEnds fs cwd path (.error (.directory path e)) files
  | made (between : FileSystem) (answer : Except AccountError Unit) (files : FileSystem)
    (hmade : fs.makeDirectories cwd path = (between, .ok ()))
    (hrestrict : RestrictEnds between cwd path answer files) : EnsureEnds fs cwd path answer files
  | found (answer : Except AccountError Unit) (files : FileSystem)
    (hrestrict : RestrictEnds fs cwd path answer files) : EnsureEnds fs cwd path answer files

theorem ensureDirectory_ends {path : String}
    (h : (ensureDirectory path).run.run m = (answer, m')) :
    ∃ files, m' = { m with files := files } ∧ EnsureEnds m.files m.cwd path answer files := by
  rw [ensureDirectory, run_get_bind] at h
  split at h
  · rw [run_bind, run_onFiles] at h
    rcases hmade : m.files.makeDirectories m.cwd path with ⟨between, e | _⟩
    · rw [hmade] at h
      cases h
      exact ⟨between, rfl, .unmade e between hmade⟩
    · rw [hmade] at h
      obtain ⟨files, rfl, hrestrict⟩ := restrictPermissions_ends h
      exact ⟨files, rfl, .made between answer files hmade hrestrict⟩
  · obtain ⟨files, rfl, hrestrict⟩ := restrictPermissions_ends h
    exact ⟨files, rfl, .found answer files hrestrict⟩

section Ends

variable {fs : FileSystem} {cwd : Location} {path : String}

theorem RestrictEnds.sameBut (h : RestrictEnds fs cwd path answer files) : SameBut [] fs files := by
  cases h with
  | absent => exact .refl [] _
  | refused _ _ _ hsame => exact hsame
  | restricted _ _ hsame => exact hsame

theorem RestrictEnds.saving {e : AccountError} (h : RestrictEnds fs cwd path (.error e) files) :
    e.isOfSaving = true := by
  cases h <;> rfl

theorem RestrictEnds.pathExists (h : RestrictEnds fs cwd path (.ok ()) files) :
    files.pathExists cwd path = true := by
  cases h with
  | restricted _ hexists hsame => exact FileSystem.pathExists_of_keptKinds hsame.kinds hexists

namespace EnsureEnds

theorem sameBut (h : EnsureEnds fs cwd path answer files) : SameBut [] fs files := by
  have hmake := FileSystem.makeDirectories_sameBut fs cwd path
  cases h with
  | unmade e _ hmade => rwa [hmade] at hmake
  | made between _ _ hmade hrestrict =>
    rw [hmade] at hmake
    exact hmake.trans hrestrict.sameBut
  | found _ _ hrestrict => exact hrestrict.sameBut

theorem saving {e : AccountError} (h : EnsureEnds fs cwd path (.error e) files) :
    e.isOfSaving = true := by
  cases h with
  | unmade => rfl
  | made _ _ _ _ hrestrict => exact hrestrict.saving
  | found _ _ hrestrict => exact hrestrict.saving

theorem pathExists (h : EnsureEnds fs cwd path (.ok ()) files) :
    files.pathExists cwd path = true := by
  cases h with
  | made _ _ _ _ hrestrict => exact hrestrict.pathExists
  | found _ _ hrestrict => exact hrestrict.pathExists

/-- Where a reliable system does not come by a directory, a file in it that can be read could be
read before. -/
theorem read_of_error {e : AccountError} (h : EnsureEnds fs cwd path (.error e) files)
    (hfs : fs.Reliable) {file text : String} (hparent : Path.parent? file = some path)
    (hread : files.read cwd file = .ok text) : fs.read cwd file = .ok text := by
  cases h with
  | unmade e _ hmade =>
    exact absurd hread (FileSystem.not_read_of_makeDirectories_error hfs hparent hmade)
  | made between _ _ hmade hrestrict =>
    have hbetween := FileSystem.makeDirectories_sameBut fs cwd path
    rw [hmade] at hbetween
    cases hrestrict with
    | refused e _ hunreliable => exact absurd (hbetween.reliable hfs) hunreliable
    | absent e he =>
      -- only the empty path is not there once it was made, and nothing was done for it
      cases hempty : path.isEmpty with
      | true =>
        rw [FileSystem.makeDirectories, FileSystem.makeDirectoriesFrom.eq_def] at hmade
        simp only [hempty, if_true, Prod.mk.injEq, and_true] at hmade
        rwa [hmade]
      | false =>
        obtain ⟨n, hn⟩ := FileSystem.pathExists_iff.mp
          (FileSystem.pathExists_of_makeDirectories hmade hempty)
        rw [he] at hn
        cases hn
  | found _ _ hrestrict =>
    cases hrestrict with
    | refused e _ hunreliable => exact absurd hfs hunreliable
    | absent => exact hread

end EnsureEnds

/-- How saving a configuration to a file ends. -/
inductive SaveEnds (fs : FileSystem) (cwd : Location) (path : String) (c : Config) :
    Except AccountError Unit → FileSystem → Prop
  /-- It fails before the file is open, and no text has changed. -/
  | unopened (e : AccountError) (files : FileSystem) (he : e.isOfSaving = true)
    (hsame : SameBut [] fs files) (hread : fs.Reliable → ∀ text,
      files.read cwd path = .ok text → fs.read cwd path = .ok text) :
    SaveEnds fs cwd path c (.error e) files
  /-- It fails in the middle of writing, and the file has the beginning of its text. -/
  | broken (e : OsError) (n : Nat) (files : FileSystem) (hfs : ¬fs.Reliable)
    (hsame : SameBut [placeOf cwd path] fs files)
    (hread : files.read cwd path = .ok (begun c.text n)) :
    SaveEnds fs cwd path c (.error (.unwritable path e)) files
  /-- It fails once the file has its text, since the file cannot be made private. -/
  | unrestricted (e : OsError) (files : FileSystem) (hfs : ¬fs.Reliable)
    (hsame : SameBut [placeOf cwd path] fs files) (hread : files.read cwd path = .ok c.text) :
    SaveEnds fs cwd path c (.error (.unrestricted path e)) files
  | saved (files : FileSystem) (hsame : SameBut [placeOf cwd path] fs files)
    (hread : files.read cwd path = .ok c.text)
    (hdirectory : ∀ directory, Path.parent? path = some directory →
      files.pathExists cwd directory = true) :
    SaveEnds fs cwd path c (.ok ()) files

/-- Once the file has its text, saving can fail only to make it private. -/
theorem RestrictEnds.saveEnds {written : FileSystem}
    (h : RestrictEnds written cwd path answer files)
    (hsame : SameBut [placeOf cwd path] fs written) (hread : written.read cwd path = .ok c.text)
    (hdirectory : ∀ directory, Path.parent? path = some directory →
      written.pathExists cwd directory = true) :
    SaveEnds fs cwd path c answer files := by
  have hlast := h.sameBut
  cases h with
  | absent e he =>
    obtain ⟨n, hn⟩ := FileSystem.pathExists_iff.mp (FileSystem.pathExists_of_read hread)
    rw [he] at hn
    cases hn
  | refused e _ hf =>
    exact .unrestricted e _ (fun hreliable => hf (hsame.reliable hreliable))
      (hsame.trans (hlast.weaken _)) (hlast.read hread)
  | restricted =>
    refine .saved _ (hsame.trans (hlast.weaken _)) (hlast.read hread) fun directory hparent => ?_
    exact FileSystem.pathExists_of_keptKinds hlast.kinds (hdirectory directory hparent)

end Ends

/-- A configuration is written to a file once its directory is there. -/
theorem saveEnds_of_write {fs : FileSystem} {path : String} (hfs : SameBut [] fs m.files)
    (hdirectory : ∀ directory, Path.parent? path = some directory →
      m.files.pathExists m.cwd directory = true)
    (h : (onFiles (.unwritable path) (fun fs cwd => fs.write cwd path c.text) >>= fun _ =>
      restrictPermissions path privateFile).run.run m = (answer, m')) :
    ∃ files, m' = { m with files := files } ∧ SaveEnds fs m.cwd path c answer files := by
  have hends := m.files.write_ends m.cwd path c.text
  rw [run_bind, run_onFiles] at h
  rcases hwrite : m.files.write m.cwd path c.text with ⟨files, written⟩
  rw [hwrite] at h hends
  cases hends with
  | refused e he =>
    cases h
    refine ⟨_, rfl, .unopened _ _ rfl hfs fun _ text hread => ?_⟩
    obtain ⟨target, htarget⟩ := FileSystem.exists_target_of_read hread
    rw [he] at htarget
    cases htarget
  | unopened f hf =>
    cases h
    refine ⟨_, rfl, .unopened _ _ rfl (hfs.trans m.files.sameBut_called) fun hreliable => ?_⟩
    exact absurd (hfs.reliable hreliable) hf
  | broken f hf l mode _ hfilled =>
    cases h
    obtain rfl := FileSystem.eq_placeOf_of_resolve hfilled.resolve
    exact ⟨_, rfl, .broken f.error f.written _ (fun hreliable => hf (hfs.reliable hreliable))
      ((hfs.weaken _).trans hfilled.sameBut) hfilled.read⟩
  | written l mode _ hfilled =>
    obtain rfl := FileSystem.eq_placeOf_of_resolve hfilled.resolve
    obtain ⟨last, rfl, hrestrict⟩ := restrictPermissions_ends h
    refine ⟨last, rfl, hrestrict.saveEnds ((hfs.weaken _).trans hfilled.sameBut) hfilled.read ?_⟩
    intro directory hparent
    exact FileSystem.pathExists_of_keptKinds hfilled.keptKinds (hdirectory directory hparent)

theorem saveConfigTo_ends {path : String}
    (h : (saveConfigTo c path).run.run m = (answer, m')) :
    ∃ files, m' = { m with files := files } ∧ SaveEnds m.files m.cwd path c answer files := by
  rw [saveConfigTo] at h
  cases hparent : Path.parent? path with
  | none =>
    rw [hparent] at h
    refine saveEnds_of_write (.refl [] m.files) (fun directory hdirectory => ?_) h
    rw [hparent] at hdirectory
    cases hdirectory
  | some directory =>
    rw [hparent] at h
    dsimp only at h
    rw [run_bind] at h
    rcases hrun : (ensureDirectory directory).run.run m with ⟨e | _, m₁⟩
    · rw [hrun] at h
      obtain ⟨files, rfl, hensured⟩ := ensureDirectory_ends hrun
      cases h
      exact ⟨files, rfl, .unopened e files hensured.saving hensured.sameBut
        fun hreliable text => hensured.read_of_error hreliable hparent⟩
    · rw [hrun] at h
      obtain ⟨files, rfl, hensured⟩ := ensureDirectory_ends hrun
      refine saveEnds_of_write (m := { m with files := files }) hensured.sameBut
        (fun directory' hdirectory => ?_) h
      rw [hparent] at hdirectory
      cases hdirectory
      exact hensured.pathExists

theorem saveConfig_ends (h : (saveConfig c).run.run m = (answer, m')) :
    ∃ files, m' = { m with files := files } ∧
      SaveEnds m.files m.cwd m.configPath c answer files := by
  rw [saveConfig, run_get_bind] at h
  exact saveConfigTo_ends h

namespace SaveEnds

variable {fs : FileSystem} {cwd : Location} {path : String}

theorem saving {e : AccountError} (h : SaveEnds fs cwd path c (.error e) files) :
    e.isOfSaving = true := by
  cases h with
  | unopened _ _ he => exact he
  | broken => rfl
  | unrestricted => rfl

/-- Nothing has another text but the file of the configuration. -/
theorem sameBut (h : SaveEnds fs cwd path c answer files) :
    SameBut [placeOf cwd path] fs files := by
  cases h with
  | unopened _ _ _ hsame => exact hsame.weaken _
  | broken _ _ _ _ hsame => exact hsame
  | unrestricted _ _ _ hsame => exact hsame
  | saved _ hsame => exact hsame

/-- A reliable system that could not save a configuration has left all files with their text, and
the file of the configuration reads as before. -/
theorem unchanged_of_reliable {e : AccountError} (h : SaveEnds fs cwd path c (.error e) files)
    (hfs : fs.Reliable) :
    SameBut [] fs files ∧ ∀ text, files.read cwd path = .ok text ↔ fs.read cwd path = .ok text := by
  cases h with
  | unopened _ _ _ hsame hread => exact ⟨hsame, fun text => ⟨hread hfs text, hsame.read⟩⟩
  | broken _ _ _ hunreliable => exact absurd hfs hunreliable
  | unrestricted _ _ hunreliable => exact absurd hfs hunreliable

theorem read (h : SaveEnds fs cwd path c (.ok ()) files) : files.read cwd path = .ok c.text := by
  cases h with
  | saved _ _ hread => exact hread

end SaveEnds

/-! ## What is loaded after saving -/

section Loading

variable {old : Config}

/-- No writing of a configuration was broken off on a machine: its system does what it should, or
the answer does not say that a file could not be written. -/
def Machine.Unbroken {α : Type} (m : Machine) (answer : Except AccountError α) : Prop :=
  m.files.Reliable ∨ ∀ path e, answer ≠ .error (.unwritable path e)

theorem Machine.Unbroken.of_map {α β : Type} {answer : Except AccountError α} {f : α → β}
    (h : m.Unbroken (answer.map f)) : m.Unbroken answer := by
  refine h.imp_right fun hwritten path e he => hwritten path e ?_
  rw [he]
  rfl

/-- A configuration that was saved is the one on disk. -/
theorem SaveEnds.config? (h : SaveEnds m.files m.cwd m.configPath c (.ok ()) files)
    (hc : c.Distinct) (keyring : Keyring) (runs : List Login.Run) :
    Machine.config? ⟨files, m.cwd, m.configDirectory, keyring, runs⟩ = some c :=
  Machine.Keeps.config? ⟨c.text, h.read, Config.ofText?_text c hc⟩

/-- A configuration that is on disk after a reliable system could not save another one was there
before. -/
theorem SaveEnds.config?_of_error {e : AccountError}
    (h : SaveEnds m.files m.cwd m.configPath c (.error e) files) (hfiles : m.files.Reliable)
    (keyring : Keyring) (runs : List Login.Run)
    (hold : Machine.config? ⟨files, m.cwd, m.configDirectory, keyring, runs⟩ = some old) :
    m.config? = some old := by
  obtain ⟨hsame, hread⟩ := h.unchanged_of_reliable hfiles
  rcases keeps_of_config? hold with ⟨text, hfile, htext⟩ | ⟨hnone, rfl⟩
  · exact Machine.Keeps.config? ⟨text, (hread text).mp hfile, htext⟩
  · have hnone : files.pathExists m.cwd m.configPath = false := hnone
    have habsent : m.files.pathExists m.cwd m.configPath = false := by
      rw [← Bool.not_eq_true] at hnone ⊢
      exact fun hexists => hnone (FileSystem.pathExists_of_keptKinds hsame.kinds hexists)
    rw [config?_eq_some_iff, loaded, habsent]
    rfl

/-- Whatever comes of saving, a file says the old configuration or the new one, unless the writing
was broken off. -/
theorem SaveEnds.keeps (h : SaveEnds m.files m.cwd m.configPath c answer files)
    (hwhole : m.Unbroken answer) (hold : m.Keeps old) (hc : c.Distinct) (keyring : Keyring)
    (runs : List Login.Run) :
    Machine.Keeps ⟨files, m.cwd, m.configDirectory, keyring, runs⟩ old ∨
      Machine.Keeps ⟨files, m.cwd, m.configDirectory, keyring, runs⟩ c := by
  cases h with
  | unopened _ _ _ hsame =>
    obtain ⟨text, hread, htext⟩ := hold
    exact .inl ⟨text, hsame.read hread, htext⟩
  | broken e _ _ hunreliable =>
    rcases hwhole with hreliable | hwritten
    · exact absurd hreliable hunreliable
    · exact absurd rfl (hwritten m.configPath e)
  | unrestricted _ _ _ _ hread => exact .inr ⟨c.text, hread, Config.ofText?_text c hc⟩
  | saved _ _ hread => exact .inr ⟨c.text, hread, Config.ofText?_text c hc⟩

end Loading

/-! ## Saving again -/

/-- A configuration can be saved for sure: there is a file for it, and its directory, and the system
does what it should. -/
structure Machine.Saveable (m : Machine) : Prop where
  file : ∃ text, m.files.read m.cwd m.configPath = .ok text
  directory : ∀ path, Path.parent? m.configPath = some path → m.files.pathExists m.cwd path = true
  reliable : m.files.Reliable

/-- After a reliable system has saved a configuration, it can save it again. -/
theorem SaveEnds.saveable (h : SaveEnds m.files m.cwd m.configPath c (.ok ()) files)
    (hfiles : m.files.Reliable) (keyring : Keyring) (runs : List Login.Run) :
    Machine.Saveable ⟨files, m.cwd, m.configDirectory, keyring, runs⟩ := by
  cases h with
  | saved _ hsame hread hdirectory =>
    exact ⟨⟨c.text, hread⟩, hdirectory, hsame.reliable hfiles⟩

theorem run_restrict_of_reliable {path : String} (mode : Nat) (hfiles : m.files.Reliable)
    (h : m.files.pathExists m.cwd path = true) :
    ∃ files, SameBut [] m.files files ∧
      (restrictPermissions path mode).run.run m = (.ok (), { m with files := files }) := by
  obtain ⟨n, hn⟩ := FileSystem.pathExists_iff.mp h
  refine ⟨_, FileSystem.restrict_sameBut m.files m.cwd path mode, ?_⟩
  rw [restrictPermissions, run_get_bind, hn]
  dsimp only
  rw [run_onFiles, FileSystem.restrict_of_reliable hfiles hn]
  rfl

theorem run_write_of_reliable {path old text : String} {error : OsError → AccountError}
    (hfiles : m.files.Reliable) (h : m.files.read m.cwd path = .ok old) : ∃ files,
      (onFiles error (fun fs cwd => fs.write cwd path text) >>= fun _ =>
        restrictPermissions path privateFile).run.run m = (.ok (), { m with files := files }) := by
  have hwritten := FileSystem.write_of_reliable hfiles h text
  have hread := FileSystem.read_of_write (Prod.ext rfl hwritten)
  obtain ⟨files, _, hrun⟩ := run_restrict_of_reliable privateFile
    (m := { m with files := (m.files.write m.cwd path text).1 })
    (FileSystem.reliable_write hfiles) (FileSystem.pathExists_of_read hread)
  refine ⟨files, ?_⟩
  rw [run_bind, run_onFiles, hwritten]
  exact hrun

/-- Where there are a file and a directory for it, a reliable system saves a configuration. -/
theorem run_saveConfig_of_saveable (h : m.Saveable) (c : Config) :
    ∃ files, (saveConfig c).run.run m = (.ok (), { m with files := files }) := by
  obtain ⟨old, hread⟩ := h.file
  rw [saveConfig, run_get_bind, saveConfigTo]
  cases hparent : Path.parent? m.configPath with
  | none => exact run_write_of_reliable h.reliable hread
  | some directory =>
    have hexists := h.directory directory hparent
    obtain ⟨files, hsame, hrun⟩ := run_restrict_of_reliable privateDirectory h.reliable hexists
    have hensured :
        (ensureDirectory directory).run.run m = (.ok (), { m with files := files }) := by
      rw [ensureDirectory, run_get_bind, if_neg (by simp [hexists])]
      exact hrun
    dsimp only
    rw [run_bind, hensured]
    exact run_write_of_reliable (m := { m with files := files }) (hsame.reliable h.reliable)
      (hsame.read hread)

/-! ## Files at any path -/

theorem run_loadConfigFrom_of_read {path text : String} (hread : m.files.read m.cwd path = .ok text)
    (htext : Config.ofText? text = some c) :
    (loadConfigFrom path).run.run m = (.ok c, m) := by
  rw [loadConfigFrom, run_get_bind, FileSystem.pathExists_of_read hread, hread]
  dsimp only
  rw [htext]
  rfl

/-- **A configuration that was saved is loaded as it was**: the same active profile, and the same
profile under every name, whatever the strings are, which fields are left out and in which order the
profiles are written. -/
theorem loadConfigFrom_of_saveConfigTo {path : String} (hc : c.Distinct)
    (h : (saveConfigTo c path).run.run m = (.ok (), m')) :
    (loadConfigFrom path).run.run m' = (.ok c, m') := by
  obtain ⟨files, rfl, hends⟩ := saveConfigTo_ends h
  exact run_loadConfigFrom_of_read hends.read (Config.ofText?_text c hc)

/-- A configuration whose active profile is none of its own, with names and values that need quotes
and escapes as keys, on one line and over several. -/
def oddConfig : Config where
  active := ""
  profiles := [
    ("", ⟨"", none, none, none, []⟩),
    ("a.b \"c\"", ⟨"\x27\x27\x27", some "line\nline\r\n", none, some "\x01\\u0041", [""]⟩),
    ("profiles", ⟨"\"\"\"", some "", some "#", none, ["openid", "a\tb", "\x27"]⟩)]

theorem loadConfigFrom_of_saveConfigTo_oddConfig :
    oddConfig.Distinct ∧ ∃ m',
      (saveConfigTo oddConfig "/conf/nested/config.toml").run.run
          ⟨.empty, [], "/conf", .make [] .working, []⟩ = (.ok (), m') ∧
        (loadConfigFrom "/conf/nested/config.toml").run.run m' = (.ok oddConfig, m') := by
  have hdistinct : oddConfig.Distinct := by
    rw [Config.Distinct]
    decide
  have hok : ((saveConfigTo oddConfig "/conf/nested/config.toml").run.run
      ⟨.empty, [], "/conf", .make [] .working, []⟩).1 = .ok () := by
    decide +kernel
  rcases hsave : (saveConfigTo oddConfig "/conf/nested/config.toml").run.run
      ⟨.empty, [], "/conf", .make [] .working, []⟩ with ⟨answer, m'⟩
  rw [hsave] at hok
  obtain rfl : answer = .ok () := hok
  exact ⟨hdistinct, m', rfl, loadConfigFrom_of_saveConfigTo hdistinct hsave⟩

end SchemaSdk.Account
