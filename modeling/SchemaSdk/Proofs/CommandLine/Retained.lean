import SchemaSdk.Proofs.Account.Retained
import SchemaSdk.Proofs.CommandLine.Generated
import SchemaSdk.Proofs.CommandLine.History

/-!
# Tokens between a login and the next one

The tokens of a login that was saved are loaded until the next login or logout. The other commands
only ask for tokens, read schemas, or write packages, and no file of a package has the name of the
configuration.
-/
namespace SchemaSdk.CommandLine

open SchemaSdk.Account SchemaSdk.Login SchemaSdk.Project

variable {environment : Environment} {directory : String} {m m' next : Machine}
variable {name : String} {p : Profile} {t : Tokens}

/-- A command that neither logs in nor logs out. -/
def Command.LeavesTokens : Command → Prop
  | .login _ => False
  | .logout _ => False
  | _ => True

/-! ## The file of the configuration -/

theorem isFileName_config : Path.IsFileName "config.toml" :=
  ⟨by decide, by decide, by decide, by decide⟩

theorem withExtension_ne_config (stem : String) : stem ++ ".rs" ≠ "config.toml" := by
  intro heq
  have hlast := congrArg (fun s : String => s.toList.getLast?) heq
  simp [List.getLast?_append] at hlast

/-- No file of a package is the file of the configuration. -/
theorem PackageWritten.readConfig {settings : Settings} (h : PackageWritten m settings next)
    {text : String} (hread : m.files.read m.cwd m.configPath = .ok text) :
    next.files.read next.cwd next.configPath = .ok text := by
  obtain ⟨hnext, hwritten⟩ := h
  rw [hnext]
  refine hwritten.read (fun file hfile hplace => ?_) hread
  rw [Machine.configPath, configPathIn, FileSystem.placeOf_join isFileName_config] at hplace
  have hname : file = "config.toml" := by
    have hlast := congrArg List.getLast? hplace
    simpa using hlast.symm
  have hextension : ∃ stem, file = stem ++ ".rs" := by
    rcases List.mem_cons.mp hfile with rfl | hfile
    · exact ⟨_, rfl⟩
    · rw [List.mem_singleton.mp hfile]
      exact ⟨_, rfl⟩
  obtain ⟨stem, rfl⟩ := hextension
  exact withExtension_ne_config stem hname

/-! ## Commands -/

/-- A command that neither logs in nor logs out leaves the tokens that a machine has. -/
theorem retains_execute (henvironment : configDirectory? environment = some m.configDirectory)
    (h : Retains m name t) (s : Surroundings) (directory : String) {command : Command}
    (hcommand : command.LeavesTokens) :
    Retains (command.execute environment s directory m).2 name t ∧
      (command.execute environment s directory m).2.configDirectory = m.configDirectory := by
  cases command with
  | login => cases hcommand
  | logout => cases hcommand
  | order => exact ⟨h, rfl⟩
  | token profile =>
    obtain ⟨c, p, hkeeps, _⟩ := h.config
    obtain ⟨keyring, hmode, hitems, hafter⟩ := accessToken_ends hkeeps.config? profile
    rw [execute_token henvironment, hafter]
    exact ⟨h.congr hmode hitems fun _ hread => hread, rfl⟩
  | generate choices config color =>
    rcases hrun : (Command.generate choices config color).execute environment s directory m
      with ⟨answer, next⟩
    rcases (generateSdk_ends hrun).packageWritten with rfl | ⟨settings, hwritten⟩
    · exact ⟨h, rfl⟩
    · have hread : ∀ text, m.files.read m.cwd m.configPath = .ok text →
          next.files.read next.cwd next.configPath = .ok text :=
        fun _ hread => hwritten.readConfig hread
      rw [hwritten.1] at hread ⊢
      exact ⟨h.congr rfl rfl hread, rfl⟩

/-- Commands that neither log in nor log out leave the tokens that a machine has. -/
theorem retains_executeAll (henvironment : configDirectory? environment = some m.configDirectory)
    (h : Retains m name t) {commands : List (Surroundings × Command)}
    (hcommands : ∀ x ∈ commands, x.2.LeavesTokens) :
    Retains (executeAll environment directory m commands).2 name t := by
  induction commands generalizing m with
  | nil => exact h
  | cons x rest ih =>
    obtain ⟨s, command⟩ := x
    obtain ⟨hcommand, hrest⟩ := List.forall_mem_cons.mp hcommands
    obtain ⟨hnext, hdirectory⟩ := retains_execute henvironment h s directory hcommand
    rcases hrun : command.execute environment s directory m with ⟨answer, next⟩
    rw [hrun] at hnext hdirectory
    rw [executeAll_cons hrun]
    exact ih (hdirectory ▸ henvironment) hnext hrest

/-- **Tokens that were saved are loaded until the next login or logout.** They are loaded as those
of the active profile and as those of the profile by name, if the keyring gives back what it was
given. -/
theorem loadTokens_after_saveLogin (hkeyring : m.keyring.Faithful) (ht : t.Fits)
    (hsave : (saveLogin name p t).run.run m = (.ok (), m'))
    (henvironment : configDirectory? environment = some m'.configDirectory)
    {commands : List (Surroundings × Command)} (hcommands : ∀ x ∈ commands, x.2.LeavesTokens) :
    ((loadTokens none).run.run (executeAll environment directory m' commands).2).1 = .ok t ∧
      ((loadTokens (some name)).run.run (executeAll environment directory m' commands).2).1 =
        .ok t :=
  (retains_executeAll henvironment (retains_of_saveLogin hkeyring ht hsave) hcommands).loads

/-- Tokens with characters that their text escapes, and with the longest lifetime. -/
def oddTokens : Tokens := ⟨"a\"\\\n\x01é", none, some 18446744073709551615, some "", none⟩

/-- Tokens are asked for, of the active profile and of one by name. -/
def requests : List (Surroundings × Command) :=
  [(straySurroundings, .token none), (straySurroundings, .token (some "p"))]

/-- Odd tokens are loaded as they were saved, before and after others have asked for them. -/
theorem loadTokens_after_saveLogin_oddTokens :
    ∃ m', (saveLogin "p" (clientOf "one") oddTokens).run.run newMachine = (.ok (), m') ∧
      ((loadTokens none).run.run (executeAll homeEnvironment "/" m' requests).2).1 =
        .ok oddTokens ∧
      ((loadTokens (some "p")).run.run (executeAll homeEnvironment "/" m' requests).2).1 =
        .ok oddTokens := by
  have hok : ((saveLogin "p" (clientOf "one") oddTokens).run.run newMachine).1 = .ok () := by
    decide +kernel
  have hdirectory : ((saveLogin "p" (clientOf "one") oddTokens).run.run
      newMachine).2.configDirectory = "/conf" := by decide +kernel
  rcases hsave : (saveLogin "p" (clientOf "one") oddTokens).run.run newMachine with ⟨answer, m'⟩
  rw [hsave] at hok hdirectory
  obtain rfl : answer = .ok () := hok
  have hfits : oddTokens.Fits := by
    rintro _ ⟨⟩
    decide
  have hcommands : ∀ x ∈ requests, x.2.LeavesTokens := by
    rintro x hx
    simp only [requests, List.mem_cons, List.not_mem_nil, or_false] at hx
    rcases hx with rfl | rfl <;> trivial
  exact ⟨m', rfl, loadTokens_after_saveLogin (Keyring.faithful_of_working rfl) hfits hsave
    (homeEnvironment_directory hdirectory) hcommands⟩

end SchemaSdk.CommandLine
