import SchemaSdk.Json.Known
import SchemaSdk.Login.Pkce
import SchemaSdk.Text.Words

/-!
# Tokens

What a provider grants for a code, how it is read from the reply to the exchange, and how it is
kept as text. A reply that is no grant is a rejection, or an error that carries its body.
-/
namespace SchemaSdk.Login

open SchemaSdk.Bytes SchemaSdk.Web

/-- What a provider grants. -/
structure Tokens where
  accessToken : String
  tokenType : Option String
  expiresIn : Option Nat
  refreshToken : Option String
  scope : Option String
  deriving DecidableEq

namespace Tokens

/-- The keys of tokens, in the order of their text. -/
def keys : List String := ["access_token", "token_type", "expires_in", "refresh_token", "scope"]

/-- Tokens as a value. -/
def toJson (t : Tokens) : Json := .object [
  ("access_token", .string t.accessToken),
  ("token_type", .ofString? t.tokenType),
  ("expires_in", match t.expiresIn with
    | some n => .ofNat n
    | none => .null),
  ("refresh_token", .ofString? t.refreshToken),
  ("scope", .ofString? t.scope)]

/-- The tokens that members say. -/
def ofMembers? (members : List (String × Json)) : Option Tokens := do
  return {
    accessToken := ← Json.text? members "access_token"
    tokenType := ← Json.optionalText? members "token_type"
    expiresIn := ← Json.optionalNatural? members "expires_in"
    refreshToken := ← Json.optionalText? members "refresh_token"
    scope := ← Json.optionalText? members "scope" }

/-- Tokens as text. -/
def text (t : Tokens) : String := t.toJson.text

/-- The tokens that a text says. -/
def ofText? (s : String) : Option Tokens :=
  (Json.wholeRecord? keys 1 (s.toList.map some)).bind ofMembers?

/-- The tokens that a provider grants by a value. Their type is in lower case, and has to be
there. -/
def ofGrant? (v : Json) : Option Tokens := do
  let members ← v.record? keys
  return {
    accessToken := ← Json.text? members "access_token"
    tokenType := some (Text.lowerCase (← Json.text? members "token_type"))
    expiresIn := ← Json.optionalNatural? members "expires_in"
    refreshToken := ← Json.optionalText? members "refresh_token"
    scope := ← Json.optionalText? members "scope" }

end Tokens

/-- The value that bytes start with, all of which is kept. -/
def leadingValue? (body : List UInt8) : Option Json :=
  (Json.ofStart? (Utf8.decodeStart body)).filter (·.fits Json.maxDepth)

/-- The keys of an error response. -/
def rejectionKeys : List String := ["error", "error_description", "error_uri"]

/-- The error that a provider gives by members. -/
def rejection? (members : List (String × Json)) : Option LoginError := do
  let error ← Json.text? members "error"
  let description ← Json.optionalText? members "error_description"
  let _ ← Json.optionalText? members "error_uri"
  return .rejected error description

/-- The error that a provider gives by bytes. -/
def leadingRejection? (body : List UInt8) : Option LoginError :=
  (Json.leadingRecord? rejectionKeys 1 (Utf8.scan body)).bind rejection?

/-- Whether a kind of content is JSON, with parameters or not. -/
def isJsonType (contentType : String) : Bool :=
  contentType.toList.all (fun c => c == '\t' || (0x20 ≤ c.toNat && c.toNat < 0x7f)) &&
    jsonType.toList.isPrefixOf (contentType.toList.map Char.toLower)

/-- What a provider grants by a reply. -/
def readGrant (r : Reply) : Except LoginError Tokens :=
  if r.status ≠ 200 then
    if r.body.isEmpty then .error (.exchange .emptyRejection)
    else match leadingRejection? r.body with
      | some e => .error e
      | none => .error (.exchange (.unexpected r.body))
  else
    match r.contentType.filter (!isJsonType ·) with
    | some contentType => .error (.exchange (.wrongContentType contentType))
    | none =>
      if r.body.isEmpty then .error (.exchange .emptyReply)
      else match (leadingValue? r.body).bind Tokens.ofGrant? with
        | some t => .ok t
        | none => .error (.exchange (.unexpected r.body))

end SchemaSdk.Login
