import SchemaSdk.CommandLine.Footprint

/-!
# The program

Shows the part of the machine that a command is about to the library, and does what the library
has decided. There is no keyring and no network here, so no tokens can be stored.
-/
namespace SchemaSdk.Program

open SchemaSdk.Account SchemaSdk.CommandLine SchemaSdk.Login

/-- The path of a place. -/
def pathOf (l : Location) : String := "/" ++ "/".intercalate l

/-- What stands at a place. -/
def look (l : Location) : IO (Option Node) := do
  if ← ((← IO.currentDir) / pathOf l).isDir then return some (.directory 0o755)
  try return some (.file (← IO.FS.readFile (pathOf l)) 0o644)
  catch _ => return none

/-- Adds what stands at places. -/
def learn (fs : FileSystem) : List Location → IO FileSystem
  | [] => return fs
  | l :: rest => do
    if l.isEmpty then learn fs rest
    else match ← look l with
      | some n => learn (fs.put l n) rest
      | none => learn fs rest

/-- The permissions that a part of a mode gives. -/
def access (mode : Nat) : IO.AccessRight := ⟨mode.testBit 2, mode.testBit 1, mode.testBit 0⟩

/-- Sets the permissions of a place unless they are the usual ones. -/
def restrict (l : Location) (mode usual : Nat) : IO Unit :=
  if mode = usual then return
  else IO.setAccessRights (pathOf l) ⟨access (mode / 64), access (mode / 8), access mode⟩

/-- Makes the machine have a node at a place. -/
def settle : Location × Node → IO Unit
  | (l, .directory mode) => do
    IO.FS.createDirAll (pathOf l)
    restrict l mode 0o755
  | (l, .file text mode) => do
    IO.FS.writeFile (pathOf l) text
    restrict l mode 0o644

/-- The variables of the environment that mean something. -/
def environment : IO Environment :=
  variableNames.filterMapM fun name => do
    return (← IO.getEnv name).map (name, ·)

/-- What a login finds: nobody answers, and nothing can be listened at. -/
def surroundings : IO Surroundings := do
  let state ← IO.getRandomBytes 16
  let key ← IO.getRandomBytes (.ofNat ProofKey.randomBytes)
  return {
    network := Web.unconnected
    bind := fun _ _ => .error "Cannot assign requested address (os error 99)"
    visits := fun _ => []
    random := ⟨state.data.toList, key.data.toList⟩ }

end SchemaSdk.Program

open SchemaSdk SchemaSdk.Program SchemaSdk.Account SchemaSdk.CommandLine in
/-- Runs the program with its arguments and gives its exit code. -/
def main (args : List String) : IO UInt32 := do
  let environment ← environment
  let directory := (← IO.currentDir).toString
  let cwd := Path.steps directory
  let files ← learn .empty (FileSystem.placesOn cwd directory)
  let files ← learn files (footprint environment directory files cwd args)
  let files ← learn files (footprint environment directory files cwd args)
  let machine : Machine := ⟨files, cwd, "", .make [] .absent, []⟩
  let (outcome, machine) := run environment (← surroundings) directory machine args
  (machine.files.changesFrom files).forM settle
  IO.print outcome.stdout
  IO.eprint outcome.complaint
  return .ofNat outcome.exit
