import SchemaSdk.CommandLine.Arguments
import SchemaSdk.Login.Flow
import SchemaSdk.Project.Settings
import SchemaSdk.Report.Models

/-!
# Commands

What the program can be told to do, and how it is told so: the name of a command, followed by its
arguments.
-/
namespace SchemaSdk.CommandLine

open SchemaSdk.Project (Choices)
open SchemaSdk.Report (ColorMode Format)

/-- What is asked of a login. -/
structure LoginRequest where
  profile : String
  clientId : Option String
  authority : Option String
  authorizeUrl : Option String
  tokenUrl : Option String
  scopes : List String
  callbackAddress : String
  seconds : Nat
  deriving DecidableEq

/-- What the program can be told to do. -/
inductive Command where
  | generate (choices : Choices) (config : Option String) (color : ColorMode)
  | order (schema : String) (format : Format) (color : ColorMode)
  | login (request : LoginRequest)
  | token (profile : Option String)
  | logout (profile : Option String)
  deriving DecidableEq

/-- An option with a single value. -/
def single (name : String) (kind : ValueKind) (fallback : Option String) : OptionSpec :=
  ⟨name, kind, fallback, false⟩

/-- The option for colours. -/
def colorOption : OptionSpec := single "color" (.oneOf ["auto", "always", "never"]) none

/-- How the command that generates is given. -/
def generateSpec : CommandSpec where
  name := "generate"
  argument := some (single "schema" .path (some "SDKGEN_SCHEMA"))
  required := false
  options := [
    single "client-name" .text (some "SDKGEN_CLIENT_NAME"),
    single "schema-name" .text (some "SDKGEN_SCHEMA_NAME"),
    single "out-dir" .path (some "SDKGEN_OUT_DIR"),
    single "endpoint" .text (some "SDKGEN_ENDPOINT"),
    single "config" .path (some "SDKGEN_CONFIG"),
    colorOption]

/-- How the command that orders is given. -/
def orderSpec : CommandSpec where
  name := "order"
  argument := some (single "schema" .path none)
  required := true
  options := [single "format" (.oneOf ["json", "compact", "pretty"]) none, colorOption]

/-- How the command that logs in is given. -/
def loginSpec : CommandSpec where
  name := "login"
  argument := none
  required := false
  options := [
    single "profile" .text none,
    single "client-id" .text (some "SDKGEN_CLIENT_ID"),
    single "authority" .text (some "SDKGEN_AUTHORITY"),
    single "authorize-url" .text none,
    single "token-url" .text none,
    ⟨"scope", .text, none, true⟩,
    single "callback-addr" .text none,
    single "timeout-secs" .natural none]

/-- How a command about a profile is given. -/
def profileSpec (name : String) : CommandSpec := ⟨name, none, false, [single "profile" .text none]⟩

/-- The colours that values choose. -/
def colorOf (values : Values) : ColorMode :=
  ((values.lookup "color").bind ColorMode.ofName?).getD .auto

/-- How long a login waits unless told otherwise, in seconds. -/
def defaultSeconds : Nat := Login.defaultTimeout / 1000

namespace Command

/-- The command to generate by values. -/
def generateOf (values : Values) : Command :=
  generate {
    schema := values.lookup "schema"
    clientName := values.lookup "client-name"
    schemaName := values.lookup "schema-name"
    outDir := values.lookup "out-dir"
    endpoint := values.lookup "endpoint" }
    (values.lookup "config") (colorOf values)

/-- The command to order by values. -/
def orderOf (values : Values) : Command :=
  order ((values.lookup "schema").getD "")
    (((values.lookup "format").bind Format.ofName?).getD .pretty) (colorOf values)

/-- The command to log in by values. -/
def loginOf (values : Values) : Command :=
  login {
    profile := (values.lookup "profile").getD "default"
    clientId := values.lookup "client-id"
    authority := values.lookup "authority"
    authorizeUrl := values.lookup "authorize-url"
    tokenUrl := values.lookup "token-url"
    scopes := (values.filter (·.1 == "scope")).map (·.2)
    callbackAddress := (values.lookup "callback-addr").getD Login.defaultCallbackAddress
    seconds := ((values.lookup "timeout-secs").bind natural?).getD defaultSeconds }

/-- The commands, and what their values tell to do. -/
def all : List (CommandSpec × (Values → Command)) := [
  (generateSpec, generateOf),
  (orderSpec, orderOf),
  (loginSpec, loginOf),
  (profileSpec "token", fun values => token (values.lookup "profile")),
  (profileSpec "logout", fun values => logout (values.lookup "profile"))]

/-- The command with a name. -/
def find? (name : String) : Option (CommandSpec × (Values → Command)) :=
  all.find? (·.1.name == name)

/-- The word that asks for help on commands. -/
def helpWord : String := "help"

/-- What a request for help on a command gives. Commands have no commands of their own. -/
def helpOn : List String → UsageError
  | [] => .help
  | [name] => if (find? name).isSome || name = helpWord then .help else .noSuchCommand
  | _ => .noSuchCommand

/-- What an argument says that stands where a command should. -/
def notCommand (arg : String) (rest : List String) : UsageError :=
  if arg = "--" then
    match rest with
    | [] => .helpInstead
    | next :: _ =>
      if (find? next).isSome || next = helpWord then .unknownArgument else .noSuchCommand
  else match longOption? arg with
    | some ("help", value) => if value.isSome then .tooManyValues else .help
    | some ("version", value) => if value.isSome then .tooManyValues else .version
    | some _ => .unknownArgument
    | none =>
      match shortFlag? arg with
      | some 'h' => .help
      | some 'V' => .version
      | some _ => .unknownArgument
      | none => .noSuchCommand

/-- The command that arguments are. -/
def parse (environment : List (String × String)) : List String → Except UsageError Command
  | [] => .error .helpInstead
  | arg :: rest =>
    match find? arg with
    | some (spec, make) => (spec.read environment rest).map make
    | none => .error (if arg = helpWord then helpOn rest else notCommand arg rest)

end Command
end SchemaSdk.CommandLine
