import SchemaSdk.Login.Callback
import SchemaSdk.Login.Provider

/-!
# A login

A login finds the endpoints of its provider, listens for the callback, hands the user a URL to open,
and exchanges the code of the callback for tokens. A run keeps what is seen from outside: the states
passed through, the request handed out, the requests made and the pages shown.
-/
namespace SchemaSdk.Login

open SchemaSdk.Web

/-- How far a login has come. -/
inductive LoginState where
  | notStarted
  | waitingForCallback
  | codeReceived
  | errorReceived
  | tokensExchanged
  | failed
  deriving DecidableEq

/-- What is to be logged in to, and how. -/
structure LoginConfig where
  endpoints : Endpoints
  clientId : String
  scopes : List String
  callbackAddress : String
  milliseconds : Nat
  deriving DecidableEq

/-- The address of the listener unless another one is given. -/
def defaultCallbackAddress : String := "127.0.0.1:3000"

/-- How long a login waits unless told otherwise, in milliseconds. -/
def defaultTimeout : Nat := 5 * 60 * 1000

/-- The configuration for endpoints and a client that leaves the rest as it is by default. -/
def LoginConfig.new (endpoints : Endpoints) (clientId : String) : LoginConfig :=
  ⟨endpoints, clientId, [], defaultCallbackAddress, defaultTimeout⟩

/-- What surrounds a login: the network, the system it listens with, the requests of the browser
that come in time after a URL was handed out, and randomness. -/
structure Surroundings where
  network : Network
  bind : Bind
  visits : Url → List Visit
  random : Randomness

/-- What a login did. The states are those after the first one. -/
structure Run where
  states : List LoginState
  authorization : Option Authorization
  requests : List Request
  pages : List Page
  result : Except LoginError Tokens

namespace Run

/-- A run that failed before anything was handed out. -/
def failedEarly (requests : List Request) (e : LoginError) : Run :=
  ⟨[.failed], none, requests, [], .error e⟩

/-- The state that a login is left in. -/
def finalState (r : Run) : LoginState := r.states.getLast?.getD .notStarted

end Run

/-- The state that a result ends in. -/
def stateOf : Except LoginError Tokens → LoginState
  | .ok _ => .tokensExchanged
  | .error _ => .failed

/-- What follows once a callback has been received. -/
def afterCallback (s : Surroundings) (c : Client) (a : Authorization) (p : CallbackParams) :
    List Request × Except LoginError Tokens :=
  match p.accept a.state with
  | .error e => ([], .error e)
  | .ok code => c.exchange s.network code a.key.verifier

/-- What follows once the URL has been handed out, with the requests made before. -/
def afterHandOut (s : Surroundings) (config : LoginConfig) (c : Client) (requests : List Request) :
    Run :=
  let a := Authorization.make c config.scopes s.random
  let visits := s.visits a.url
  match awaitCallback config.milliseconds visits with
  | .error e => ⟨[.waitingForCallback, .failed], some a, requests, pagesOf visits, .error e⟩
  | .ok p =>
    let received := if p.error.isSome then .errorReceived else .codeReceived
    let (more, result) := afterCallback s c a p
    ⟨[.waitingForCallback, received, stateOf result], some a, requests ++ more, pagesOf visits,
      result⟩

/-- Logs in. -/
def LoginConfig.run (config : LoginConfig) (s : Surroundings) : Run :=
  match config.endpoints.resolve s.network with
  | (requests, .error e) => Run.failedEarly requests e
  | (requests, .ok provider) =>
    match listen s.bind config.callbackAddress with
    | .error e => Run.failedEarly requests e
    | .ok port =>
      match Client.make config.clientId provider (redirectUri port) with
      | .error e => Run.failedEarly requests e
      | .ok client => afterHandOut s config client requests

end SchemaSdk.Login
