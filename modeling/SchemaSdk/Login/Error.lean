import SchemaSdk.Bytes.Utf8
import SchemaSdk.Web.Http
import SchemaSdk.Web.Uri

/-!
# Errors of a login

Every way a login can fail, and the messages for them.
-/
namespace SchemaSdk.Login

open SchemaSdk.Web

/-- Why a listener cannot be bound to an address. -/
inductive BindError where
  | badAddress
  | badPort
  | refused (reason : String)
  deriving DecidableEq

/-- The message for an error of a listener. -/
def BindError.message : BindError → String
  | badAddress => "invalid socket address"
  | badPort => "invalid port value"
  | refused reason => reason

/-- Why a code was not exchanged for tokens, unless the provider says so itself. -/
inductive ExchangeError where
  | unprepared (e : UriError)
  | notHttp
  | noConnection
  | emptyRejection
  | emptyReply
  | wrongContentType (contentType : String)
  | unexpected (body : List UInt8)
  deriving DecidableEq

/-- The message for an error of an exchange. -/
def ExchangeError.message : ExchangeError → String
  | unprepared e => "Other error: failed to prepare request: " ++ e.message
  | notHttp => "Request failed"
  | noConnection => "Request failed"
  | emptyRejection => "Other error: server returned empty error response"
  | emptyReply => "Other error: server returned empty response body"
  | wrongContentType contentType =>
    "Other error: unexpected response Content-Type: " ++ quotedHeader contentType ++
      ", should be `" ++ jsonType ++ "`"
  | unexpected body => "unexpected response: " ++ String.ofList (Bytes.Utf8.decode body)

/-- Why a provider could not be asked where its endpoints are: nothing answers there, or no request
can be sent there. -/
inductive RequestError where
  | noConnection
  | unsendable
  deriving DecidableEq

/-- What is wrong with the answer of a provider about its endpoints. -/
inductive DiscoveryError where
  | status (code : Nat)
  | malformed
  deriving DecidableEq

/-- Why a login failed. -/
inductive LoginError where
  | authorization (error : String) (description : Option String)
  | stateMismatch
  | missingCode
  | timeout (milliseconds : Nat)
  | bind (e : BindError)
  | rejected (error : String) (description : Option String)
  | exchange (e : ExchangeError)
  | invalidVerifier
  | discovery (url : Url) (e : DiscoveryError)
  | request (url : Url) (e : RequestError)
  | url (e : UrlError)
  deriving DecidableEq

/-- Three digits of a fraction without the zeros at their end. -/
def fractionText (thousandths : Nat) : String :=
  let digits := (Nat.toDigits 10 (1000 + thousandths)).drop 1
  String.ofList (digits.reverse.dropWhile (· == '0')).reverse

/-- A duration in the largest unit that it has a whole one of. -/
def durationText (milliseconds : Nat) : String :=
  if milliseconds = 0 then "0ns"
  else if milliseconds < 1000 then toString milliseconds ++ "ms"
  else if milliseconds % 1000 = 0 then toString (milliseconds / 1000) ++ "s"
  else toString (milliseconds / 1000) ++ "." ++ fractionText (milliseconds % 1000) ++ "s"

/-- A description between brackets, if there is one. -/
def bracketed : Option String → String
  | some d => " (" ++ d ++ ")"
  | none => ""

/-- A URL without user name and password. -/
def withoutUser (u : Url) : Url := { u with username := [], password := [] }

/-- The message for an error. -/
def LoginError.message : LoginError → String
  | authorization error description => "Authorization failed: " ++ error ++ bracketed description
  | stateMismatch => "Callback state does not match the login request (possible CSRF)"
  | missingCode => "Callback carried neither an authorization code nor an error"
  | timeout ms => "Timed out after " ++ durationText ms ++ " waiting for the login callback"
  | bind e => "Failed to bind callback listener: " ++ e.message
  | rejected error description => "Token request rejected: " ++ error ++ bracketed description
  | exchange e => "Token exchange failed: " ++ e.message
  | invalidVerifier => "PKCE code verifier must be 43-128 unreserved characters"
  | discovery u (.status code) =>
    "Provider discovery failed: " ++ u.text ++ " returned " ++ statusText code
  | discovery u .malformed =>
    "Provider discovery failed: invalid metadata from " ++ u.text ++
      ": error decoding response body"
  | request u .noConnection =>
    "HTTP error: error sending request for url (" ++ (withoutUser u).text ++ ")"
  | request u .unsendable => "HTTP error: builder error for url (" ++ (withoutUser u).text ++ ")"
  | url e => "Invalid URL: " ++ e.message

end SchemaSdk.Login
