import SchemaSdk.Account.Profile
import SchemaSdk.Toml.Document
import SchemaSdk.Toml.Written

/-!
# The user's configuration

The profiles of a user by name, and the name of the active one, which need not be a profile. The
configuration is kept as TOML text.
-/
namespace SchemaSdk.Account

open SchemaSdk.Toml (Section Content)

/-- Profiles by name, and the name of the active one. No name occurs twice. -/
structure Config where
  active : String
  profiles : List (String × Profile)
  deriving DecidableEq

namespace Config

/-- The configuration before any login. -/
def empty : Config := ⟨"default", []⟩

/-- The profile with a name. -/
def profile? (c : Config) (name : String) : Option Profile := c.profiles.lookup name

/-- The configuration with a profile under a name, in the place of one that has it. -/
def setProfile (c : Config) (name : String) (p : Profile) : Config :=
  { c with profiles :=
      if c.profiles.any (·.1 == name) then
        c.profiles.map fun e => if e.1 == name then (name, p) else e
      else c.profiles ++ [(name, p)] }

/-- The configuration without the profile of a name. -/
def removeProfile (c : Config) (name : String) : Config :=
  { c with profiles := c.profiles.filter (·.1 != name) }

/-- The configuration with a name as the active one. -/
def activate (c : Config) (name : String) : Config := { c with active := name }

/-- The profile with a name, or the active one, along with its name. -/
def resolve? (c : Config) (name : Option String) : Option (String × Profile) :=
  let name := name.getD c.active
  (c.profile? name).map (name, ·)

/-! ### As text -/

/-- An entry of a section for a value that may be missing. -/
def optionalEntry (key : String) (value : Option String) : List (String × Content) :=
  (value.map fun s => (key, Content.one s)).toList

/-- The section of a profile. -/
def profileSection (name : String) (p : Profile) : Section where
  path := ["profiles", name]
  entries :=
    [("client_id", .one p.clientId)] ++ optionalEntry "authority" p.authority ++
      optionalEntry "authorization_endpoint" p.authorizationEndpoint ++
      optionalEntry "token_endpoint" p.tokenEndpoint ++
      if p.scopes.isEmpty then [] else [("scopes", .many p.scopes)]

/-- The sections of a configuration. -/
def sections (c : Config) : List Section :=
  ⟨["settings"], [("active_profile", .one c.active)]⟩ ::
    if c.profiles.isEmpty then [⟨["profiles"], []⟩]
    else c.profiles.map fun (name, p) => profileSection name p

/-- A configuration as text. -/
def text (c : Config) : String := String.ofList (Toml.writeSections c.sections)

/-- The string of a key that has to be there. -/
def string? (entries : List (String × Toml)) (key : String) : Option String :=
  (entries.lookup key).bind Toml.asString?

/-- The string of a key that may be missing. -/
def optionalString? (entries : List (String × Toml)) (key : String) : Option (Option String) :=
  match entries.lookup key with
  | none => some none
  | some v => v.asString?.map some

/-- The strings of a key that may be missing. -/
def strings? (entries : List (String × Toml)) (key : String) : Option (List String) :=
  match entries.lookup key with
  | none => some []
  | some v => v.asStrings?

/-- The profile that a value is: a table, or an array of its strings and then its scopes. -/
def profileOf? : Toml → Option Profile
  | .table entries => do
    return {
      clientId := ← string? entries "client_id"
      authority := ← optionalString? entries "authority"
      authorizationEndpoint := ← optionalString? entries "authorization_endpoint"
      tokenEndpoint := ← optionalString? entries "token_endpoint"
      scopes := ← strings? entries "scopes" }
  | .array (clientId :: authority :: authorization :: token :: rest) => do
    return {
      clientId := ← clientId.asString?
      authority := some (← authority.asString?)
      authorizationEndpoint := some (← authorization.asString?)
      tokenEndpoint := some (← token.asString?)
      scopes := ← match rest with
        | [] => some []
        | scopes :: _ => scopes.asStrings? }
  | _ => none

/-- The name of the active profile that a value says: a table, or an array with it. -/
def activeOf? : Toml → Option String
  | .table entries => string? entries "active_profile"
  | .array (name :: _) => name.asString?
  | _ => none

/-- The profiles that a value says. -/
def profilesOf? : Toml → Option (List (String × Profile))
  | .table entries => entries.mapM fun (name, v) => (profileOf? v).map (name, ·)
  | _ => none

/-- The configuration that a table says. Both of its parts may be missing. -/
def ofToml? (entries : List (String × Toml)) : Option Config := do
  let active ← match entries.lookup "settings" with
    | none => some empty.active
    | some v => activeOf? v
  let profiles ← match entries.lookup "profiles" with
    | none => some []
    | some v => profilesOf? v
  return ⟨active, profiles⟩

/-- The configuration that a text says. -/
def ofText? (s : String) : Option Config := (Toml.parse s).bind ofToml?

end Config
end SchemaSdk.Account
