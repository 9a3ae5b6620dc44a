import SchemaSdk.Web.Url

/-!
# Addresses of requests

What a request is sent to is read once more from the text of a URL, by stricter rules than those of
URLs. It starts with a scheme and an authority, or it is an authority and nothing else, which the
text of a URL without slashes may happen to be. No other characters may be in it than those that
need no encoding, but for a few in a path. Texts of URLs are ASCII and start with a scheme.
-/
namespace SchemaSdk.Web

/-- Why a text is no address of a request. -/
inductive UriError where
  | tooLong
  | schemeTooLong
  | badCharacter
  | badAuthority
  | badFormat
  deriving DecidableEq

/-- The message for an error. -/
def UriError.message : UriError → String
  | tooLong => "uri too long"
  | schemeTooLong => "scheme too long"
  | badCharacter => "invalid uri character"
  | badAuthority => "invalid authority"
  | badFormat => "invalid format"

namespace Uri

/-- The longest address, in bytes. -/
def maxBytes : Nat := 65534

/-- The longest scheme. -/
def maxSchemeLength : Nat := 64

/-- How many colons an authority may have in a row of its parts, as an address of version 6 does. -/
def maxColons : Nat := 8

/-- Whether a character may be in a scheme. -/
def inScheme (c : Char) : Bool := c.isAlphanum || ['+', '-', '.', '~'].contains c

/-- Whether a character may be in an authority, apart from those that divide it. -/
def inAuthority (c : Char) : Bool :=
  c.isAlphanum ||
    ['!', '$', '&', '\'', '(', ')', '*', '+', ',', '-', '.', ';', '=', '_', '~'].contains c

/-- Whether a character may be in a path. -/
def inPath (c : Char) : Bool :=
  0x21 ≤ c.toNat && c.toNat ≤ 0x7e && !(['#', '<', '>', '?', '`'].contains c)

/-- Whether a character may be in a query. -/
def inQuery (c : Char) : Bool :=
  0x21 ≤ c.toNat && c.toNat ≤ 0x7e && !(['"', '#', '<', '>'].contains c)

/-- What has been seen of an authority: the colons since the last mark, brackets, whether there is a
percent sign that belongs to no user, and whether nothing has followed the mark of a user. -/
structure Seen where
  colons : Nat
  opened : Bool
  closed : Bool
  percent : Bool
  endsInUser : Bool

/-- One more character of an authority. -/
def Seen.next (a : Seen) (c : Char) : Except UriError Seen :=
  let a := { a with endsInUser := c == '@' }
  if c == ':' then
    if maxColons ≤ a.colons then .error .badAuthority else .ok { a with colons := a.colons + 1 }
  else if c == '[' then
    if a.percent || a.opened then .error .badAuthority else .ok { a with opened := true }
  else if c == ']' then
    if !a.opened || a.closed then .error .badAuthority
    else .ok { a with closed := true, colons := 0, percent := false }
  else if c == '@' then .ok { a with colons := 0, percent := false }
  else if c == '%' then .ok { a with percent := true }
  else if inAuthority c then .ok a
  else .error .badCharacter

/-- Checks an authority. -/
def checkAuthority (s : List Char) : Except UriError Unit := do
  let a ← s.foldlM Seen.next ⟨0, false, false, false, false⟩
  if a.opened != a.closed || 1 < a.colons || a.endsInUser || a.percent then throw .badAuthority

/-- Checks what follows an authority. A fragment is no part of an address. -/
def checkPath (s : List Char) : Except UriError Unit :=
  let (path, query) := Url.splitAtChar '?' (s.takeWhile (· != '#'))
  if path.all inPath && (query.getD []).all inQuery then .ok () else .error .badCharacter

/-- Checks that a text is an address. -/
def check (text : String) : Except UriError Unit := do
  if maxBytes < text.utf8ByteSize then throw .tooLong
  let s := text.toList
  let scheme := s.takeWhile inScheme
  let authorityOf (s : List Char) : List Char := s.takeWhile (fun c => !(['/', '?', '#'].contains c))
  match s.drop scheme.length with
  | ':' :: '/' :: '/' :: rest =>
    if maxSchemeLength < scheme.length then throw .schemeTooLong
    let authority := authorityOf rest
    checkAuthority authority
    if authority.isEmpty then throw .badFormat
    checkPath (rest.drop authority.length)
  | _ =>
    let authority := authorityOf s
    checkAuthority authority
    if authority.length < s.length then throw .badFormat

end Uri
end SchemaSdk.Web
