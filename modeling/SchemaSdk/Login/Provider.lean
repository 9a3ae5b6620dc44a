import SchemaSdk.Login.Tokens

/-!
# Providers

Where a login is sent to, and how a code is exchanged for tokens. A provider has an endpoint for
each; both are given, or the provider is asked at an address below its own.
-/
namespace SchemaSdk.Login

open SchemaSdk.Bytes SchemaSdk.Web

/-- Where the endpoints of a provider come from. -/
inductive Endpoints where
  | discover (authority : Url)
  | given (authorization token : Url)
  deriving DecidableEq

/-- The endpoints of a provider. -/
structure ProviderMetadata where
  authorizationEndpoint : Url
  tokenEndpoint : Url
  deriving DecidableEq

namespace ProviderMetadata

/-- The URL of a key. -/
def url? (members : List (String × Json)) (key : String) : Option Url :=
  (Json.text? members key).bind fun s => (Url.parse s).toOption

/-- The endpoints that members say. -/
def ofMembers? (members : List (String × Json)) : Option ProviderMetadata := do
  return ⟨← url? members "authorization_endpoint", ← url? members "token_endpoint"⟩

/-- The endpoints that the body of a reply says. -/
def ofBody? (body : List UInt8) : Option ProviderMetadata :=
  (Json.wholeRecord? ["authorization_endpoint", "token_endpoint"] 2 (Utf8.scan body)).bind
    ofMembers?

end ProviderMetadata

/-- The path below an authority where it says what its endpoints are. -/
def metadataPath : List Char := ".well-known/openid-configuration".toList

/-- Where an authority says what its endpoints are. A slash ends its path first, so that the whole
of it stays. -/
def metadataUrl (authority : Url) : Except UrlError Url :=
  let path := Url.pathText authority.path
  let base := if path.getLast? == some '/' then authority else authority.withPath (path ++ ['/'])
  base.join metadataPath

/-- Whether a URL can be asked for in the web. -/
def isWebUrl (u : Url) : Bool :=
  u.scheme == ['h', 't', 't', 'p'] || u.scheme == ['h', 't', 't', 'p', 's']

/-- Whether a request can be sent to a URL: it is one of the web, and its text is an address. -/
def isSendable (u : Url) : Bool := isWebUrl u && (Uri.check u.text).isOk

/-- Asks an authority for its endpoints, which gives the requests that were made too. -/
def discover (network : Network) (authority : Url) :
    List Request × Except LoginError ProviderMetadata :=
  match metadataUrl authority with
  | .error e => ([], .error (.url e))
  | .ok url =>
    if !isSendable url then ([], .error (.request url .unsendable))
    else
      let request := Request.mk .get url
      ([request],
        match network request with
        | none => .error (.request url .noConnection)
        | some reply =>
          if !isSuccess reply.status then .error (.discovery url (.status reply.status))
          else match ProviderMetadata.ofBody? reply.body with
            | none => .error (.discovery url .malformed)
            | some found => .ok found)

/-- The endpoints of a provider, and the requests that were made for them. -/
def Endpoints.resolve (network : Network) :
    Endpoints → List Request × Except LoginError ProviderMetadata
  | discover authority => Login.discover network authority
  | given authorization token => ([], .ok ⟨authorization, token⟩)

/-- What comes of the reply to an exchange, if there is one. -/
def granted : Option Reply → Except LoginError Tokens
  | none => .error (.exchange .noConnection)
  | some reply => readGrant reply

/-- A client of a provider, and where it is sent back to. -/
structure Client where
  id : String
  provider : ProviderMetadata
  redirectUri : String
  deriving DecidableEq

namespace Client

/-- The client with an address to be sent back to, which has to be a URL. -/
def make (id : String) (provider : ProviderMetadata) (redirectUri : String) :
    Except LoginError Client :=
  match Url.parse redirectUri with
  | .error e => .error (.url e)
  | .ok _ => .ok ⟨id, provider, redirectUri⟩

/-- A client keeps what it is made with. -/
theorem eq_of_make {id redirectUri : String} {provider : ProviderMetadata} {c : Client}
    (h : make id provider redirectUri = .ok c) : c = ⟨id, provider, redirectUri⟩ := by
  rw [make] at h
  split at h
  · cases h
  · exact (Except.ok.inj h).symm

/-- What a request to log in says, in order. -/
def authorizationPairs (c : Client) (state challenge : String) (scopes : List String) :
    List (String × String) :=
  let scope := " ".intercalate scopes
  [("response_type", "code"), ("client_id", c.id), ("state", state),
    ("code_challenge", challenge), ("code_challenge_method", challengeMethod),
    ("redirect_uri", c.redirectUri)] ++ if scope.isEmpty then [] else [("scope", scope)]

/-- What an exchange of a code says, in order. -/
def exchangeForm (c : Client) (code verifier : String) : List (String × String) := [
  ("grant_type", "authorization_code"), ("code", code), ("code_verifier", verifier),
  ("client_id", c.id), ("redirect_uri", c.redirectUri)]

/-- The request that exchanges a code. -/
def exchangeRequest (c : Client) (code verifier : String) : Request :=
  ⟨.post (c.exchangeForm code verifier), c.provider.tokenEndpoint⟩

/-- Exchanges a code for tokens, which gives the requests that were made too. Whether the endpoint
is an address is looked at before it is known to be one of the web. -/
def exchange (c : Client) (network : Network) (code verifier : String) :
    List Request × Except LoginError Tokens :=
  match Uri.check c.provider.tokenEndpoint.text with
  | .error e => ([], .error (.exchange (.unprepared e)))
  | .ok () =>
    if isWebUrl c.provider.tokenEndpoint then
      let request := c.exchangeRequest code verifier
      ([request], granted (network request))
    else ([], .error (.exchange .notHttp))

section

variable {c : Client} (network : Network) (code verifier : String)

theorem exchange_of_isSendable (h : isSendable c.provider.tokenEndpoint = true) :
    c.exchange network code verifier =
      ([c.exchangeRequest code verifier],
        granted (network (c.exchangeRequest code verifier))) := by
  rw [isSendable, Bool.and_eq_true] at h
  rw [exchange]
  split
  case h_1 e he =>
    rw [he] at h
    cases h.2
  case h_2 => rw [if_pos h.1]

/-- No request is made where none can be sent. -/
theorem exchange_of_not_isSendable (h : isSendable c.provider.tokenEndpoint = false) :
    ∃ e, c.exchange network code verifier = ([], .error (.exchange e)) := by
  rw [exchange]
  split
  case h_1 e he => exact ⟨_, rfl⟩
  case h_2 hok =>
    rw [isSendable, hok, Except.isOk, Except.toBool, Bool.and_true] at h
    exact ⟨.notHttp, by rw [h, if_neg Bool.false_ne_true]⟩

end

end Client

/-- A request to log in: where the user is sent, and what proves that the answer and the exchange
belong to it. -/
structure Authorization where
  url : Url
  state : String
  key : ProofKey
  deriving DecidableEq

/-- Random bytes for one login. -/
structure Randomness where
  state : List UInt8
  key : List UInt8
  deriving DecidableEq

/-- The request of a client for scopes. -/
def Authorization.make (c : Client) (scopes : List String) (random : Randomness) :
    Authorization :=
  let state := String.ofList (Base64Url.encode random.state)
  let key := ProofKey.ofRandom random.key
  { url := c.provider.authorizationEndpoint.addPairs
      (c.authorizationPairs state key.sentChallenge scopes)
    state := state
    key := key }

end SchemaSdk.Login
