import SchemaSdk.Login.Error

/-!
# The callback of a login

After the user has answered, the browser is sent back to a listener with the answer in the query of
the address. The listener delivers the first answer it can read, and the login takes a code from it
only if it carries the state of the request.
-/
namespace SchemaSdk.Login

open SchemaSdk.Web

/-- What a callback says. -/
structure CallbackParams where
  code : Option String
  state : Option String
  error : Option String
  errorDescription : Option String
  deriving DecidableEq

/-- A key that a query has twice. -/
structure DuplicateKey where
  key : String
  deriving DecidableEq

/-- What is said about a duplicate key. -/
def DuplicateKey.message (d : DuplicateKey) : String :=
  "Failed to deserialize query string: duplicate field `" ++ d.key ++ "`"

namespace CallbackParams

/-- The keys that mean something in a query. -/
def keys : List String := ["code", "state", "error", "error_description"]

/-- The first key that stands in front of a pair with the same key, among those that mean
something. The list holds the keys before. -/
def duplicate? : List String → List (String × String) → Option String
  | _, [] => none
  | before, (key, _) :: pairs =>
    if keys.contains key then
      if before.contains key then some key else duplicate? (key :: before) pairs
    else duplicate? before pairs

/-- What the pairs of a query say. -/
def ofPairs (pairs : List (String × String)) : Except DuplicateKey CallbackParams :=
  match duplicate? [] pairs with
  | some key => .error ⟨key⟩
  | none => .ok {
      code := pairs.lookup "code"
      state := pairs.lookup "state"
      error := pairs.lookup "error"
      errorDescription := pairs.lookup "error_description" }

/-- What a query says. -/
def ofQuery (query : List Char) : Except DuplicateKey CallbackParams := ofPairs (Form.decode query)

/-- The code of a callback. An error comes before everything else, and the state is compared before
the code is looked at. -/
def accept (p : CallbackParams) (state : String) : Except LoginError String :=
  match p.error with
  | some error => .error (.authorization error p.errorDescription)
  | none =>
    if p.state ≠ some state then .error .stateMismatch
    else match p.code with
      | none => .error .missingCode
      | some code => .ok code

end CallbackParams

/-! ### Addresses that a browser asks for -/

/-- The path and the query of an address. -/
structure Target where
  path : List Char
  query : List Char
  deriving DecidableEq

namespace Target

/-- Whether a character may stand in the path of an address. -/
def isPathChar (c : Char) : Bool :=
  0x20 < c.toNat && !(['<', '>', '`', '#', '?'].contains c)

/-- Whether a character may stand in the query of an address. -/
def isQueryChar (c : Char) : Bool := 0x20 < c.toNat && !(['"', '<', '>', '#'].contains c)

/-- The longest address, in bytes. -/
def maxBytes : Nat := 65534

/-- The path and the query of a text, up to a number sign. An empty path is that of the root. -/
def ofPath? (s : List Char) : Option Target :=
  let s := s.takeWhile (· != '#')
  let (path, query) := Url.splitAtChar '?' s
  if path.all isPathChar && (query.getD []).all isQueryChar then
    some ⟨if path.isEmpty then ['/'] else path, query.getD []⟩
  else none

/-- Whether a character may stand in the scheme of an address. -/
def isSchemeChar (c : Char) : Bool := c.isAlphanum || c == '+' || c == '-' || c == '.'

/-- The address that a text is: a path, a whole URL, or a star. -/
def parse? (text : String) : Option Target :=
  let s := text.toList
  if maxBytes < text.utf8ByteSize then none
  else match s with
    | ['*'] => some ⟨['*'], []⟩
    | '/' :: _ => ofPath? s
    | s =>
      match s.dropWhile isSchemeChar with
      | ':' :: '/' :: '/' :: rest =>
        let host := rest.takeWhile fun c => c != '/' && c != '?' && c != '#'
        if host.isEmpty || !host.all isQueryChar then none
        else ofPath? (rest.drop host.length)
      | _ => none

end Target

/-! ### The listener -/

/-- A request of a browser to the listener. -/
structure Visit where
  method : String
  target : Target
  deriving DecidableEq

/-- What a browser is shown. -/
structure Page where
  status : Nat
  contentType : Option String
  body : String
  deriving DecidableEq

/-- The page after an answer with a code, or without an error at least. -/
def successPage : String :=
  "<html><body><h1>Login complete</h1><p>You can close this window.</p></body></html>"

/-- The page after an answer with an error. -/
def failurePage : String :=
  "<html><body><h1>Login failed</h1><p>Return to the terminal for details.</p></body></html>"

/-- What the listener reads from a request: nothing unless it is for the root and is no other
method than to get it. -/
def Visit.params? (v : Visit) : Option (Except DuplicateKey CallbackParams) :=
  if v.target.path == ['/'] && (v.method == "GET" || v.method == "HEAD") then
    some (CallbackParams.ofQuery v.target.query)
  else none

/-- The callback that a request is. -/
def Visit.callback? (v : Visit) : Option CallbackParams :=
  v.params?.bind Except.toOption

/-- What the browser is shown for a request. -/
def Visit.page (v : Visit) : Page :=
  let body (text : String) : String := if v.method == "HEAD" then "" else text
  match v.params? with
  | some (.ok p) =>
    ⟨200, some "text/html; charset=utf-8",
      body (if p.error.isSome then failurePage else successPage)⟩
  | some (.error e) => ⟨400, some "text/plain; charset=utf-8", body e.message⟩
  | none => if v.target.path == ['/'] then ⟨405, none, ""⟩ else ⟨404, none, ""⟩

/-- The callback that the listener delivers: the first one among the requests in time. -/
def firstCallback? (visits : List Visit) : Option CallbackParams := visits.findSome? Visit.callback?

/-- The pages that are shown: the listener is gone once it has a callback. -/
def pagesOf : List Visit → List Page
  | [] => []
  | v :: rest => v.page :: if v.callback?.isSome then [] else pagesOf rest

/-- Waits for a callback among the requests that come before the time is over. -/
def awaitCallback (milliseconds : Nat) (visits : List Visit) : Except LoginError CallbackParams :=
  match firstCallback? visits with
  | some p => .ok p
  | none => .error (.timeout milliseconds)

/-- The system's way to listen at a host and a port, giving the port that is listened at. -/
abbrev Bind := List Char → Nat → Except String Nat

/-- The number of a port: digits up to the largest one, with a plus sign at most. -/
def portNumber? (s : List Char) : Option Nat :=
  let digits := match s with
    | '+' :: r => r
    | s => s
  if digits.isEmpty then none
  else (Text.numberIn? 10 digits).bind fun n => if n ≤ 65535 then some n else none

/-- Listens at an address, a host and a port with a colon between them. -/
def listen (system : Bind) (address : String) : Except LoginError Nat :=
  let s := address.toList
  let portText := (s.reverse.takeWhile (· != ':')).reverse
  if !s.contains ':' then .error (.bind .badAddress)
  else match portNumber? portText with
    | none => .error (.bind .badPort)
    | some port =>
      match system (s.take (s.length - portText.length - 1)) port with
      | .error reason => .error (.bind (.refused reason))
      | .ok port => .ok port

/-- Where the browser is to be sent back to. -/
def redirectUri (port : Nat) : String := "http://localhost:" ++ toString port

end SchemaSdk.Login
