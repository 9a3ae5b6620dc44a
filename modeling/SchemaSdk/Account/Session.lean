import SchemaSdk.Account.Config
import SchemaSdk.Account.Error
import SchemaSdk.Login.Flow

/-!
# Sessions

What is done to the configuration file and the keyring. An operation that fails leaves what it has
done so far, since files and keyrings know no way back.
-/
namespace SchemaSdk.Account

open SchemaSdk.Login

/-- What operations work on: files, the directory that relative paths start from, the directory of
the configuration, the keyring, and the logins that were made. -/
structure Machine where
  files : FileSystem
  cwd : Location
  configDirectory : String
  keyring : Keyring
  runs : List Login.Run

/-- An operation on a machine. -/
abbrev Session := ExceptT AccountError (StateM Machine)

/-- The path of the configuration file in the directory of the configuration. -/
def configPathIn (directory : String) : String := Path.join directory "config.toml"

/-- The path of the configuration file. -/
def Machine.configPath (m : Machine) : String := configPathIn m.configDirectory

/-! ### Files -/

/-- Does something to the files that may fail. -/
def onFiles (error : OsError → AccountError)
    (change : FileSystem → Location → FileSystem × Except OsError Unit) : Session Unit := do
  let m ← get
  let (files, answer) := change m.files m.cwd
  set { m with files := files }
  match answer with
  | .ok () => return ()
  | .error e => throw (error e)

/-- The configuration of a file, or the empty one if there is no such file. -/
def loadConfigFrom (path : String) : Session Config := do
  let m ← get
  if !m.files.pathExists m.cwd path then return Config.empty
  match m.files.read m.cwd path with
  | .error e => throw (.unreadable path e)
  | .ok text =>
    match Config.ofText? text with
    | some c => return c
    | none => throw (.malformed path)

/-- The permissions of a directory that only its owner may look into. -/
def privateDirectory : Nat := 0o700

/-- The permissions of a file that only its owner may read. -/
def privateFile : Nat := 0o600

/-- Sets the permissions of what is at a path, after a look at what is there. -/
def restrictPermissions (path : String) (mode : Nat) : Session Unit := do
  let m ← get
  match m.files.stat m.cwd path with
  | .error e => throw (.permissions e)
  | .ok _ => onFiles (.unrestricted path) fun fs cwd => fs.restrict cwd path mode

/-- Makes sure that a directory exists and is private. -/
def ensureDirectory (path : String) : Session Unit := do
  let m ← get
  if !m.files.pathExists m.cwd path then
    onFiles (.directory path) fun fs cwd => fs.makeDirectories cwd path
  restrictPermissions path privateDirectory

/-- Writes a configuration to a private file. -/
def saveConfigTo (c : Config) (path : String) : Session Unit := do
  match Path.parent? path with
  | some directory => ensureDirectory directory
  | none => pure ()
  onFiles (.unwritable path) fun fs cwd => fs.write cwd path c.text
  restrictPermissions path privateFile

/-- The user's configuration. -/
def loadConfig : Session Config := do loadConfigFrom (← get).configPath

/-- Writes the user's configuration. -/
def saveConfig (c : Config) : Session Unit := do saveConfigTo c (← get).configPath

/-! ### Tokens -/

/-- Calls the keyring. -/
def onKeyring {α : Type} (error : KeyringError → AccountError)
    (call : Keyring → Except KeyringError α × Keyring) : Session α := do
  let m ← get
  let (answer, keyring) := call m.keyring
  set { m with keyring := keyring }
  match answer with
  | .ok a => return a
  | .error e => throw (error e)

/-- Names an entry of the keyring. -/
def nameEntry (wrap : EntryError → AccountError) : Session Unit :=
  onKeyring (wrap ∘ .named) fun k => (k.named, k)

/-- Stores tokens in an entry. -/
def storeTokens (wrap : EntryError → AccountError) (entry : EntryName) (t : Tokens) :
    Session Unit := do
  nameEntry wrap
  onKeyring (wrap ∘ .stored) fun k => k.set entry t.text

/-- The tokens in an entry. -/
def fetchTokens (wrap : EntryError → AccountError) (entry : EntryName) : Session Tokens := do
  nameEntry wrap
  let secret ← onKeyring (wrap ∘ .retrieved) fun k => k.get entry
  match Tokens.ofText? secret with
  | some t => return t
  | none => throw (wrap .malformed)

/-- Deletes the tokens in an entry. -/
def deleteTokens (wrap : EntryError → AccountError) (entry : EntryName) : Session Unit := do
  nameEntry wrap
  onKeyring (wrap ∘ .deleted) fun k => k.delete entry

/-- Whether the keyring works. -/
def checkKeyring (entry : EntryName) : Session Bool := do
  let m ← get
  let (works, keyring) := m.keyring.check entry
  set { m with keyring := keyring }
  return works

/-! ### Profiles -/

/-- The profile with a name, or the active one. -/
def resolveProfile (c : Config) (name : Option String) : Session (String × Profile) :=
  match c.resolve? name with
  | some found => return found
  | none => throw (.noProfile (name.getD c.active))

/-- Stores fresh tokens, then the profile they were granted for, which becomes the active one. -/
def saveLogin (name : String) (p : Profile) (t : Tokens) : Session Unit := do
  storeTokens .notStored (p.tokenEntry name) t
  let c ← loadConfig
  saveConfig ((c.setProfile name p).activate name)

/-- The tokens of a profile, or of the active one. -/
def loadTokens (name : Option String) : Session Tokens := do
  let c ← loadConfig
  let (name, p) ← resolveProfile c name
  fetchTokens .noTokens (p.tokenEntry name)

/-- Forgets the tokens of a profile, if the keyring lets it, and the profile. -/
def deleteProfile (name : String) : Session Unit := do
  let c ← loadConfig
  let (name, p) ← resolveProfile c (some name)
  tryCatch (deleteTokens .entry (p.tokenEntry name)) fun _ => pure ()
  saveConfig (c.removeProfile name)

/-! ### Logging in and out -/

/-- How a login is to be made, apart from its profile. -/
structure LoginOptions where
  callbackAddress : String
  milliseconds : Nat
  deriving DecidableEq

/-- Runs a login and keeps a record of it. -/
def runLogin (s : Surroundings) (config : LoginConfig) : Session Tokens := do
  let run := config.run s
  modify fun m => { m with runs := m.runs ++ [run] }
  match run.result with
  | .ok t => return t
  | .error e => throw (.login e)

/-- The endpoints of a profile. -/
def endpointsOf (p : Profile) : Session Endpoints :=
  match p.endpoints with
  | .ok e => return e
  | .error e => throw (.endpoints e)

/-- Logs in to a profile. What is not requested is taken from the stored profile. Nothing is asked
of the provider before the keyring is known to work. -/
def logIn (s : Surroundings) (name : String) (requested : Profile) (o : LoginOptions) :
    Session Unit := do
  let c ← loadConfig
  let p := requested.completed (c.profile? name)
  if p.clientId.isEmpty then throw (.noClientId name)
  if !(← checkKeyring (p.checkEntry name)) then throw .noKeyring
  let endpoints ← endpointsOf p
  let t ← runLogin s ⟨endpoints, p.clientId, p.scopes, o.callbackAddress, o.milliseconds⟩
  saveLogin name p t

/-- The access token of a profile, or of the active one. -/
def accessToken (name : Option String) : Session String := do
  return (← loadTokens name).accessToken

/-- Logs out of a profile, or of the active one, and gives its name. -/
def logOut (name : Option String) : Session String := do
  let c ← loadConfig
  let (name, _) ← resolveProfile c name
  deleteProfile name
  return name

end SchemaSdk.Account
