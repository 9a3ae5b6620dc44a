import SchemaSdk.Login.Provider

/-!
# Profiles

A profile is a client at a provider, under a name that the user has chosen. A profile tells where
its tokens are kept and which endpoints its logins use.
-/
namespace SchemaSdk.Account

open SchemaSdk.Login SchemaSdk.Web

/-- A client at a provider. -/
structure Profile where
  clientId : String
  authority : Option String
  authorizationEndpoint : Option String
  tokenEndpoint : Option String
  scopes : List String
  deriving DecidableEq

/-- The name of an entry of a keyring. -/
structure EntryName where
  service : String
  username : String
  deriving DecidableEq

/-- What is wrong with the endpoints of a profile. -/
inductive EndpointError where
  | authority (text : String) (e : UrlError)
  | authorization (text : String) (e : UrlError)
  | token (text : String) (e : UrlError)
  | missing
  deriving DecidableEq

/-- The messages for an error, from the general one to its causes. -/
def EndpointError.chain : EndpointError → List String
  | authority text e => ["Invalid authority URL: " ++ text, e.message]
  | authorization text e => ["Invalid authorization endpoint: " ++ text, e.message]
  | token text e => ["Invalid token endpoint: " ++ text, e.message]
  | missing => ["Profile needs either an authority or both authorization and token endpoints"]

namespace Profile

/-- The service under which all tokens are kept. -/
def keyringService : String := "sdkgen-cli"

/-- The entry with the tokens of a profile. -/
def tokenEntry (p : Profile) (name : String) : EntryName :=
  ⟨keyringService, name ++ "@" ++ p.clientId⟩

/-- The entry that is used to find out whether the keyring works. -/
def checkEntry (p : Profile) (name : String) : EntryName :=
  ⟨keyringService, name ++ "@" ++ p.clientId ++ "#check"⟩

/-- The endpoints that a profile uses: both that are given, or those of its authority. -/
def endpoints (p : Profile) : Except EndpointError Endpoints :=
  match p.authorizationEndpoint, p.tokenEndpoint with
  | some authorization, some token => do
    let a ← (Url.parse authorization).mapError (.authorization authorization)
    let t ← (Url.parse token).mapError (.token token)
    return .given a t
  | _, _ =>
    match p.authority with
    | some authority => do
      let a ← (Url.parse authority).mapError (.authority authority)
      return .discover a
    | none => .error .missing

/-- Whether a profile says anything about endpoints. -/
def givesEndpoints (p : Profile) : Bool :=
  p.authority.isSome || p.authorizationEndpoint.isSome || p.tokenEndpoint.isSome

/-- A requested profile with what it leaves out taken from the stored one. Endpoints belong
together: they are taken only if none is requested. -/
def completedFrom (requested stored : Profile) : Profile where
  clientId := if requested.clientId.isEmpty then stored.clientId else requested.clientId
  authority := if requested.givesEndpoints then requested.authority else stored.authority
  authorizationEndpoint :=
    if requested.givesEndpoints then requested.authorizationEndpoint
    else stored.authorizationEndpoint
  tokenEndpoint :=
    if requested.givesEndpoints then requested.tokenEndpoint else stored.tokenEndpoint
  scopes := if requested.scopes.isEmpty then stored.scopes else requested.scopes

/-- A requested profile, completed if one is stored. -/
def completed (requested : Profile) : Option Profile → Profile
  | some stored => requested.completedFrom stored
  | none => requested

end Profile
end SchemaSdk.Account
