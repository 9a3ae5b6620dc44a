import SchemaSdk.Text.Digits

/-!
# Arguments of a command

A command has options, each with one value, and at most one argument without a name. This module
reads the arguments of one command by such a description: an option is settled, its value checked,
when the argument after its value is reached.
-/
namespace SchemaSdk.CommandLine

/-- Why arguments are no command. Asking for help or the version counts as such. -/
inductive UsageError where
  | help
  | version
  | helpInstead
  | noSuchCommand
  | unknownArgument
  | badValue
  | badNumber
  | repeated
  | missing
  | tooManyValues
  deriving DecidableEq

/-- What the value of an option has to be. -/
inductive ValueKind where
  | text
  | path
  | natural
  | oneOf (names : List String)
  deriving DecidableEq

/-- The number that a text of digits is, a plus sign before them at most, within 64 bits. -/
def natural? (s : String) : Option Nat :=
  let digits := match s.toList with
    | '+' :: r => r
    | cs => cs
  if digits.isEmpty then none else (Text.numberIn? 10 digits).filter (· < Text.wordBound)

/-- What is wrong with a value of a kind. -/
def ValueKind.check (value : String) : ValueKind → Except UsageError Unit
  | text => .ok ()
  | path => if value.isEmpty then .error .badValue else .ok ()
  | natural => if (natural? value).isSome then .ok () else .error .badNumber
  | oneOf names => if names.contains value then .ok () else .error .badValue

/-- An option of a command. Its value may also come from a variable of the environment. -/
structure OptionSpec where
  name : String
  kind : ValueKind
  fallback : Option String
  repeats : Bool
  deriving DecidableEq

/-- A command: its options, and its argument without a name if it has one. -/
structure CommandSpec where
  name : String
  argument : Option OptionSpec
  required : Bool
  options : List OptionSpec
  deriving DecidableEq

/-- Values by the names of their options, in the order in which they were given. -/
abbrev Values := List (String × String)

/-- How far arguments have been read: the values so far, the option that is being read along with
its value, whether all that follows is without a name, and how many arguments without a name there
were. -/
structure Reading where
  values : Values
  pending : Option (OptionSpec × Option String)
  onlyValues : Bool
  unnamed : Nat
  deriving DecidableEq

namespace Reading

/-- Nothing has been read. -/
def start : Reading := ⟨[], none, false, 0⟩

/-- Adds a value of an option that has none before, or may have several. -/
def add (r : Reading) (o : OptionSpec) (value : String) : Except UsageError Reading :=
  if !o.repeats && r.values.any (·.1 == o.name) then .error .repeated
  else match o.kind.check value with
    | .error e => .error e
    | .ok () => .ok { r with values := r.values ++ [(o.name, value)] }

/-- Settles the option that is being read. -/
def settle (r : Reading) : Except UsageError Reading :=
  match r.pending with
  | none => .ok r
  | some (_, none) => .error .badValue
  | some (o, some value) => ({ r with pending := none }).add o value

/-- Reads an argument without a name. -/
def unnamedArgument (c : CommandSpec) (r : Reading) (value : String) : Except UsageError Reading :=
  match c.argument with
  | none => .error .unknownArgument
  | some o =>
    if r.unnamed ≠ 0 then .error .unknownArgument
    else match r.settle with
      | .error e => .error e
      | .ok r => .ok { r with pending := some (o, some value), unnamed := 1 }

end Reading

/-- The name and the value of an argument of the form `--name=value`, the value being optional. -/
def longOption? (arg : String) : Option (String × Option String) :=
  match arg.toList with
  | '-' :: '-' :: r =>
    let name := r.takeWhile (· != '=')
    some (String.ofList name,
      if r.contains '=' then some (String.ofList (r.drop (name.length + 1))) else none)
  | _ => none

/-- The first letter of an argument of the form `-letters`. -/
def shortFlag? (arg : String) : Option Char :=
  match arg.toList with
  | '-' :: c :: _ => if c = '-' then none else some c
  | _ => none

/-- Reads an option. -/
def readOption (c : CommandSpec) (r : Reading) (name : String) (value : Option String) :
    Except UsageError Reading :=
  if name = "help" then
    if value.isSome then .error .tooManyValues
    else match r.settle with
      | .error e => .error e
      | .ok _ => .error .help
  else match c.options.find? (·.name == name) with
    | none => .error .unknownArgument
    | some o =>
      match r.settle with
      | .error e => .error e
      | .ok r =>
        match value with
        | none => .ok { r with pending := some (o, none) }
        | some value => r.add o value

/-- Reads an argument. -/
def readArgument (c : CommandSpec) (r : Reading) (arg : String) : Except UsageError Reading :=
  if r.onlyValues then r.unnamedArgument c arg
  else if arg = "--" then .ok { r with onlyValues := true }
  else match longOption? arg with
    | some (name, value) => readOption c r name value
    | none =>
      match shortFlag? arg with
      | some letter => if letter = 'h' then readOption c r "help" none else .error .unknownArgument
      | none =>
        match r.pending with
        | some (o, none) => .ok { r with pending := some (o, some arg) }
        | _ => r.unnamedArgument c arg

/-- The arguments that a command has, the unnamed one included. -/
def CommandSpec.all (c : CommandSpec) : List OptionSpec := c.argument.toList ++ c.options

/-- Adds the value that an option has in the environment, unless it has been given one. -/
def fromEnvironment (environment : List (String × String)) (r : Reading) (o : OptionSpec) :
    Except UsageError Reading :=
  if r.values.any (·.1 == o.name) then .ok r
  else match o.fallback.bind (fun v => environment.lookup v) with
    | none => .ok r
    | some value => r.add o value

/-- The values of the arguments of a command. -/
def CommandSpec.read (c : CommandSpec) (environment : List (String × String))
    (args : List String) : Except UsageError Values := do
  let r ← args.foldlM (readArgument c) Reading.start
  let r ← r.settle
  let r ← c.all.foldlM (fromEnvironment environment) r
  if c.required && !(c.argument.any fun o => r.values.any (·.1 == o.name)) then
    throw .missing
  return r.values

end SchemaSdk.CommandLine
