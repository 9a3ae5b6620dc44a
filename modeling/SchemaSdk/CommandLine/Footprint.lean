import SchemaSdk.CommandLine.Execution

/-!
# Footprints of commands

Which paths a command reads or writes, and which variables of the environment it looks at. What a
project file says decides on further paths, so a footprint depends on the files that are known.
-/
namespace SchemaSdk.CommandLine

open SchemaSdk.Account SchemaSdk.Project

/-- The path of the project file that is looked for. -/
def projectPath (directory : String) (config : Option String) : String :=
  config.getD (Path.join directory Choices.fileName)

/-- The paths that settings name: the schema, the directory of the package, and its files. -/
def settingsPaths (s : Settings) : List String := [
  s.schema, s.outDir,
  Path.join s.outDir s.options.clientFile, Path.join s.outDir s.options.schemaFile]

/-- The paths that a command reads or writes, as far as known files tell. -/
def Command.paths (environment : Environment) (directory : String) (fs : FileSystem)
    (cwd : Location) : Command → List String
  | .generate choices config _ =>
    projectPath directory config ::
      match Choices.discover fs cwd config directory with
      | .error _ => []
      | .ok file =>
        match Settings.resolve file choices with
        | .error _ => []
        | .ok s => settingsPaths s
  | .order schema _ _ => [schema]
  | _ =>
    match configDirectory? environment with
    | none => []
    | some user => [configPathIn user]

/-- The places on the paths that arguments lead to. -/
def footprint (environment : Environment) (directory : String) (fs : FileSystem) (cwd : Location)
    (args : List String) : List Location :=
  match Command.parse environment args with
  | .error _ => []
  | .ok c => (c.paths environment directory fs cwd).flatMap (FileSystem.placesOn cwd)

/-- The variables of the environment that mean something to commands. -/
def variableNames : List String :=
  Command.all.flatMap (fun c => c.1.all.filterMap (·.fallback)) ++
    ["CLICOLOR_FORCE", "SDKGEN_CONFIG_DIR", "XDG_CONFIG_HOME", "HOME"]

end SchemaSdk.CommandLine
