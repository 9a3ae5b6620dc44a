import SchemaSdk.Account.Session
import SchemaSdk.CommandLine.Command
import SchemaSdk.Project.Output
import SchemaSdk.Schema.Order

/-!
# Executing commands

What a command prints, what it does to the machine, and what is said when it fails.
-/
namespace SchemaSdk.CommandLine

open SchemaSdk.Account SchemaSdk.Login SchemaSdk.Project SchemaSdk.Report SchemaSdk.Schema

/-- Variables of the environment. -/
abbrev Environment := List (String × String)

/-- Why a command fails. -/
inductive CommandError where
  | project (e : ProjectError)
  | unreadable (schema : String) (e : OsError)
  | generation (schema : String) (e : Sdk.GenerateError)
  | unwritable (directory : String) (e : OsError)
  | schema (path : String) (e : SchemaError)
  | cycle (path : String) (e : Cycle)
  | account (e : AccountError)
  | noConfigDirectory

/-- The messages for an error, from the general one to its causes. -/
def CommandError.chain : CommandError → List String
  | project e => e.chain
  | unreadable path e => ["Failed to read schema " ++ Path.quoted path, e.message]
  | generation path e => ["Failed to generate SDK from " ++ Path.quoted path, e.message]
  | unwritable directory e =>
    ["Failed to write SDK to " ++ Path.quoted directory, outputMessage e]
  | schema path e => ["Failed to parse schema " ++ Path.quoted path, e.message]
  | cycle path e => ["Cannot order the models of " ++ Path.quoted path, e.message]
  | account e => e.chain
  | noConfigDirectory => ["Could not determine config directory"]

/-- Whether styles are shown: the environment has to force them, since the output is no
terminal. -/
def showsStyles (environment : Environment) (color : ColorMode) : Bool :=
  color.styles false && (environment.lookup "CLICOLOR_FORCE").any (· != "0")

/-- The directory of the user's configuration. -/
def configDirectory? (environment : Environment) : Option String :=
  match environment.lookup "SDKGEN_CONFIG_DIR" with
  | some directory => some directory
  | none =>
    match (environment.lookup "XDG_CONFIG_HOME").filter Path.isAbsolute with
    | some directory => some (Path.join directory "sdkgen")
    | none => (environment.lookup "HOME").map fun home => Path.join home ".config/sdkgen"

/-- Generates a package and prints the paths of its files. -/
def generateSdk (environment : Environment) (directory : String) (m : Machine) (choices : Choices)
    (config : Option String) (color : ColorMode) : Except CommandError String × Machine :=
  match Choices.discover m.files m.cwd config directory with
  | .error e => (.error (.project e), m)
  | .ok file =>
    match Settings.resolve file choices with
    | .error e => (.error (.project e), m)
    | .ok s =>
      match m.files.read m.cwd s.schema with
      | .error e => (.error (.unreadable s.schema e), m)
      | .ok sdl =>
        match Sdk.generate sdl s.options with
        | .error e => (.error (.generation s.schema e), m)
        | .ok package =>
          let (files, result) := writePackage m.files m.cwd package s.outDir
          match result with
          | .error e => (.error (.unwritable s.outDir e), { m with files := files })
          | .ok paths =>
            (.ok (Report.written paths (showsStyles environment color)),
              { m with files := files })

/-- Prints the models of a schema in order. -/
def orderModels (environment : Environment) (m : Machine) (schema : String) (format : Format)
    (color : ColorMode) : Except CommandError String :=
  match m.files.read m.cwd schema with
  | .error e => .error (.unreadable schema e)
  | .ok sdl =>
    match Collection.parse sdl with
    | .error e => .error (.schema schema e)
    | .ok c =>
      match c.topologicalOrder with
      | .error e => .error (.cycle schema e)
      | .ok models => .ok (Report.models c models format (showsStyles environment color))

/-- Does something in a session that gives what is to be printed. -/
def inSession (environment : Environment) (m : Machine) (s : Session String) :
    Except CommandError String × Machine :=
  match configDirectory? environment with
  | none => (.error .noConfigDirectory, m)
  | some directory =>
    let (answer, m) := s.run.run { m with configDirectory := directory }
    (answer.mapError .account, m)

/-- The profile that a login asks for. -/
def LoginRequest.requested (r : LoginRequest) : Profile :=
  ⟨r.clientId.getD "", r.authority, r.authorizeUrl, r.tokenUrl, r.scopes⟩

/-- Logs in and prints to which profile. -/
def logInReport (s : Surroundings) (r : LoginRequest) : Session String := do
  logIn s r.profile r.requested ⟨r.callbackAddress, 1000 * r.seconds⟩
  let m ← get
  return "✓ Logged in to profile '" ++ r.profile ++ "'\n  Config: " ++ m.configPath

/-- Logs out and prints of which profile. -/
def logOutReport (profile : Option String) : Session String := do
  let name ← logOut profile
  return "✓ Logged out of profile '" ++ name ++ "'"

/-- Executes a command in a directory: what is printed without the end of its last line. -/
def Command.execute (environment : Environment) (s : Surroundings) (directory : String)
    (m : Machine) : Command → Except CommandError String × Machine
  | .generate choices config color => generateSdk environment directory m choices config color
  | .order schema format color => (orderModels environment m schema format color, m)
  | .login r => inSession environment m (logInReport s r)
  | .token profile => inSession environment m (accessToken profile)
  | .logout profile => inSession environment m (logOutReport profile)

/-- What the program leaves behind: its exit code, what it printed, and the messages of its
error. -/
structure Outcome where
  exit : Nat
  stdout : String
  errors : List String
  deriving DecidableEq

/-- A text with blanks before each of its lines. -/
def indented (s : String) : String :=
  "\n".intercalate ((s.splitOn "\n").map ("    " ++ ·))

/-- What is printed about the messages of an error. -/
def Outcome.complaint (o : Outcome) : String :=
  match o.errors with
  | [] => ""
  | [e] => "Error: " ++ e ++ "\n"
  | e :: causes =>
    "Error: " ++ e ++ "\n\nCaused by:\n" ++ "\n".intercalate (causes.map indented) ++ "\n"

/-- What the program calls itself. -/
def versionText : String := "sdkgen 0.1.0"

/-- The outcome of arguments that are no command. -/
def Outcome.ofUsageError : UsageError → Outcome
  | .help => ⟨0, "", []⟩
  | .version => ⟨0, versionText ++ "\n", []⟩
  | _ => ⟨2, "", []⟩

/-- The outcome of a command. -/
def Outcome.ofResult : Except CommandError String → Outcome
  | .ok text => ⟨0, text ++ "\n", []⟩
  | .error e => ⟨1, "", e.chain⟩

/-- Runs the program with arguments. -/
def run (environment : Environment) (s : Surroundings) (directory : String) (m : Machine)
    (args : List String) : Outcome × Machine :=
  match Command.parse environment args with
  | .error e => (.ofUsageError e, m)
  | .ok command =>
    let (result, m) := command.execute environment s directory m
    (.ofResult result, m)

end SchemaSdk.CommandLine
