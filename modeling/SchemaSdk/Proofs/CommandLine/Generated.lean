import SchemaSdk.CommandLine.Execution
import SchemaSdk.Proofs.Login.Exchange
import SchemaSdk.Proofs.Project.Written

/-!
# What generating changes

A command to generate either fails before it has a package, and then nothing has changed, or it has
one and writes it. What it changes then is confined to the directory of the package: only the two
files that the settings name are written, and they stand right in it.
-/
namespace SchemaSdk.CommandLine

open SchemaSdk.Account SchemaSdk.Login SchemaSdk.Project
open SchemaSdk.Sdk (Package)

variable {environment : Environment} {s : Surroundings} {directory : String} {m next : Machine}
variable {choices : Choices} {config : Option String} {color : Report.ColorMode}
variable {answer : Except CommandError String} {settings : Settings} {package : Package}

/-! ## Before anything is written -/

/-- What a command to generate works out before it writes: the settings, and their package. -/
def prepare (m : Machine) (directory : String) (choices : Choices) (config : Option String) :
    Except CommandError (Settings × Package) := do
  let file ← (Choices.discover m.files m.cwd config directory).mapError .project
  let settings ← (Settings.resolve file choices).mapError .project
  let sdl ← (m.files.read m.cwd settings.schema).mapError (.unreadable settings.schema)
  let package ← (Sdk.generate sdl settings.options).mapError (.generation settings.schema)
  return (settings, package)

/-- The error of a command that has a package and cannot write it. -/
def CommandError.IsUnwritable (e : CommandError) : Prop :=
  ∃ directory cause, e = .unwritable directory cause

theorem generateSdk_eq :
    generateSdk environment directory m choices config color =
      match prepare m directory choices config with
      | .error e => (.error e, m)
      | .ok (settings, package) =>
        let (files, result) := writePackage m.files m.cwd package settings.outDir
        ((result.mapError (.unwritable settings.outDir)).map
          (Report.written · (showsStyles environment color)), { m with files := files }) := by
  unfold generateSdk prepare
  cases Choices.discover m.files m.cwd config directory with
  | error e => rfl
  | ok file =>
  dsimp only [Except.mapError, bind, Except.bind]
  cases Settings.resolve file choices with
  | error e => rfl
  | ok settings =>
  dsimp only [Except.mapError]
  cases m.files.read m.cwd settings.schema with
  | error e => rfl
  | ok sdl =>
  dsimp only [Except.mapError]
  cases Sdk.generate sdl settings.options with
  | error e => rfl
  | ok package =>
  dsimp only [Except.mapError, pure, Except.pure]
  rcases writePackage m.files m.cwd package settings.outDir with ⟨files, cause | paths⟩ <;> rfl

theorem mapError_eq_ok_iff {ε ε' α : Type} {f : ε → ε'} {x : Except ε α} {a : α} :
    x.mapError f = .ok a ↔ x = .ok a := by
  cases x <;> simp [Except.mapError]

theorem mapError_eq_error_iff {ε ε' α : Type} {f : ε → ε'} {x : Except ε α} {e : ε'} :
    x.mapError f = .error e ↔ ∃ cause, x = .error cause ∧ f cause = e := by
  cases x <;> simp [Except.mapError]

theorem bind_eq_error_iff {ε α β : Type} {x : Except ε α} {f : α → Except ε β} {e : ε} :
    (x >>= f) = .error e ↔ x = .error e ∨ ∃ a, x = .ok a ∧ f a = .error e := by
  cases x <;> simp [bind, Except.bind]

/-- No command says that it could not write a package before it has one. -/
theorem not_isUnwritable_of_prepare {e : CommandError}
    (h : prepare m directory choices config = .error e) : ¬e.IsUnwritable := by
  rintro ⟨place, cause, rfl⟩
  simp [prepare, bind_eq_error_iff, mapError_eq_error_iff, pure, Except.pure] at h

theorem generate_of_prepare (h : prepare m directory choices config = .ok (settings, package)) :
    ∃ sdl, m.files.read m.cwd settings.schema = .ok sdl ∧
      Sdk.generate sdl settings.options = .ok package := by
  obtain ⟨file, _, h⟩ := bind_eq_ok_iff.mp h
  obtain ⟨settings', _, h⟩ := bind_eq_ok_iff.mp h
  obtain ⟨sdl, hsdl, h⟩ := bind_eq_ok_iff.mp h
  obtain ⟨package', hpackage, h⟩ := bind_eq_ok_iff.mp h
  cases h
  exact ⟨sdl, mapError_eq_ok_iff.mp hsdl, mapError_eq_ok_iff.mp hpackage⟩

theorem isFileName_of_prepare (h : prepare m directory choices config = .ok (settings, package)) :
    (package.client.name = settings.options.clientFile ∧
        Path.IsFileName settings.options.clientFile) ∧
      package.schema.name = settings.options.schemaFile ∧
        Path.IsFileName settings.options.schemaFile := by
  obtain ⟨_, _, hpackage⟩ := generate_of_prepare h
  obtain ⟨hclient, hschema⟩ := Sdk.names_of_generate hpackage
  exact ⟨⟨hclient, Sdk.isFileName_clientFile _⟩, hschema, Sdk.isFileName_schemaFile _⟩

/-! ## What is written -/

/-- Only a package and what leads to it has been written in the directory of some settings. -/
def PackageWritten (m : Machine) (settings : Settings) (next : Machine) : Prop :=
  next = { m with files := next.files } ∧
    FileSystem.WrittenInto m.cwd settings.outDir
      [settings.options.clientFile, settings.options.schemaFile] m.files next.files

/-- How a command to generate can end. -/
inductive GenerateEnds (m : Machine) (directory : String) (choices : Choices)
    (config : Option String) : Except CommandError String → Machine → Prop
  | refused (e : CommandError) (he : prepare m directory choices config = .error e) :
    GenerateEnds m directory choices config (.error e) m
  | unwritten (settings : Settings) (package : Package) (cause : OsError) (next : Machine)
    (hprepare : prepare m directory choices config = .ok (settings, package))
    (hwritten : PackageWritten m settings next) :
    GenerateEnds m directory choices config (.error (.unwritable settings.outDir cause)) next
  | written (settings : Settings) (package : Package) (report : String) (next : Machine)
    (hprepare : prepare m directory choices config = .ok (settings, package))
    (hwritten : PackageWritten m settings next)
    (hschema : next.files.read m.cwd (Path.join settings.outDir settings.options.schemaFile) =
      .ok package.schema.text)
    (hclient : settings.options.clientFile ≠ settings.options.schemaFile →
      next.files.read m.cwd (Path.join settings.outDir settings.options.clientFile) =
        .ok package.client.text) :
    GenerateEnds m directory choices config (.ok report) next

theorem generateSdk_ends
    (h : generateSdk environment directory m choices config color = (answer, next)) :
    GenerateEnds m directory choices config answer next := by
  rw [generateSdk_eq] at h
  cases hprepare : prepare m directory choices config with
  | error e =>
    rw [hprepare] at h
    cases h
    exact .refused e hprepare
  | ok prepared =>
    obtain ⟨settings, package⟩ := prepared
    obtain ⟨⟨hclient, hclientFile⟩, hschema, hschemaFile⟩ := isFileName_of_prepare hprepare
    rw [← hclient] at hclientFile
    rw [← hschema] at hschemaFile
    have hwritten : FileSystem.WrittenInto m.cwd settings.outDir
        [package.client.name, package.schema.name] m.files
          (writePackage m.files m.cwd package settings.outDir).1 :=
      writePackage_writtenInto hclientFile hschemaFile
    rw [hprepare] at h
    rcases hwrite : writePackage m.files m.cwd package settings.outDir with ⟨files, cause | paths⟩
    · simp only [hwrite] at h hwritten
      cases h
      refine .unwritten settings package cause _ hprepare ⟨rfl, ?_⟩
      rwa [← hclient, ← hschema]
    · simp only [hwrite] at h hwritten
      cases h
      obtain ⟨hreadSchema, hreadClient⟩ := read_of_writePackage hclientFile hschemaFile hwrite
      refine .written settings package _ _ hprepare ⟨rfl, ?_⟩ ?_ ?_
      · rwa [← hclient, ← hschema]
      · rwa [← hschema]
      · rwa [← hclient, ← hschema]

/-- Whatever a command to generate ends with, it has at most written a package. -/
theorem GenerateEnds.packageWritten (h : GenerateEnds m directory choices config answer next) :
    next = m ∨ ∃ settings, PackageWritten m settings next := by
  cases h with
  | refused => exact .inl rfl
  | unwritten settings _ _ _ _ hwritten => exact .inr ⟨settings, hwritten⟩
  | written settings _ _ _ _ hwritten => exact .inr ⟨settings, hwritten⟩

/-- **What generating changes.** A command that has no package to write changes nothing, and so does
any that fails for another reason than that it cannot write its package. One that succeeds only
changes files: it makes the directory of the package with those missing above it, and writes two
files right in it, whatever the modules are called. -/
theorem execute_generate_changes
    (h : (Command.generate choices config color).execute environment s directory m =
      (answer, next)) :
    (∀ e, prepare m directory choices config = .error e →
      answer = .error e ∧ ¬e.IsUnwritable ∧ next = m) ∧
    (∀ e, answer = .error e → ¬e.IsUnwritable → next = m) ∧
    ∀ report, answer = .ok report → ∃ settings package,
      prepare m directory choices config = .ok (settings, package) ∧
      PackageWritten m settings next ∧
      next.files.read m.cwd (Path.join settings.outDir settings.options.schemaFile) =
        .ok package.schema.text ∧
      (settings.options.clientFile ≠ settings.options.schemaFile →
        next.files.read m.cwd (Path.join settings.outDir settings.options.clientFile) =
          .ok package.client.text) := by
  have hends := generateSdk_ends h
  refine ⟨fun e he => ?_, ?_, ?_⟩
  · cases hends with
    | refused e' he' =>
      rw [he'] at he
      cases he
      exact ⟨rfl, not_isUnwritable_of_prepare he', rfl⟩
    | unwritten settings package cause _ hprepare =>
      rw [hprepare] at he
      cases he
    | written settings package report _ hprepare =>
      rw [hprepare] at he
      cases he
  · rintro e rfl he
    cases hends with
    | refused => rfl
    | unwritten => exact absurd ⟨_, _, rfl⟩ he
  · rintro report rfl
    cases hends with
    | written settings package _ _ hprepare hwritten hschema hclient =>
      exact ⟨settings, package, hprepare, hwritten, hschema, hclient⟩

/-- A machine with a schema in a directory of its own. -/
def schemaMachine : Machine where
  files := .ofNodes [(["work"], .directory 0o755),
    (["work", "schema.graphql"], .file "type Query { a: Int }" 0o644)]
  cwd := ["work"]
  configDirectory := "/conf"
  keyring := .make [] .working
  runs := []

/-- Choices whose names look like paths. -/
def pathlikeChoices : Choices where
  schema := some "schema.graphql"
  clientName := some "/tmp/../shop"
  schemaName := some "../../types"
  outDir := some "out/sdk"
  endpoint := none

/-- Modules whose names look like paths are written into the directory of their package. -/
theorem execute_generate_changes_pathlike :
    ∃ answer next, (Command.generate pathlikeChoices none .never).execute [] straySurroundings "."
        schemaMachine = (answer, next) ∧ answer.isOk = true ∧
      FileSystem.WrittenInto ["work"] "out/sdk" ["tmp_shop_client.rs", "types.rs"]
        schemaMachine.files next.files := by
  have hok : ((Command.generate pathlikeChoices none .never).execute [] straySurroundings "."
      schemaMachine).1.isOk = true := by decide +kernel
  have hnames : (prepare schemaMachine "." pathlikeChoices none).toOption.map (fun p =>
      (p.1.outDir, p.1.options.clientFile, p.1.options.schemaFile)) =
        some ("out/sdk", "tmp_shop_client.rs", "types.rs") := by decide +kernel
  rcases hrun : (Command.generate pathlikeChoices none .never).execute [] straySurroundings "."
    schemaMachine with ⟨answer, next⟩
  rw [hrun] at hok
  cases answer with
  | error e => cases hok
  | ok report =>
    obtain ⟨settings, package, hprepare, ⟨_, hwritten⟩, _⟩ :=
      (execute_generate_changes hrun).2.2 report rfl
    rw [hprepare] at hnames
    simp only [Except.toOption, Option.map_some, Option.some.injEq, Prod.mk.injEq] at hnames
    obtain ⟨hdirectory, hclient, hschema⟩ := hnames
    rw [hdirectory, hclient, hschema] at hwritten
    exact ⟨_, next, rfl, rfl, hwritten⟩

end SchemaSdk.CommandLine
