import SchemaSdk.Web.Form
import SchemaSdk.Web.Host

/-!
# URLs

Absolute URLs, read from text as browsers read them and written in one normal form: scheme and host
in lower case, no default port, no dot segments, and everything encoded that may not stand where it
does. Schemes of the web always have a host and a path of segments; other schemes may have a path
that is a single text.
-/
namespace SchemaSdk.Web

/-- The path of a URL: a single text, or segments with a slash before each. -/
inductive UrlPath where
  | single (text : List Char)
  | segments (parts : List (List Char))
  deriving DecidableEq

/-- A URL by its parts. -/
structure Url where
  scheme : List Char
  username : List Char
  password : List Char
  host : Option Host
  port : Option Nat
  path : UrlPath
  query : Option (List Char)
  fragment : Option (List Char)
  deriving DecidableEq

/-- The port of a scheme of the web. -/
def defaultPort? (scheme : List Char) : Option Nat :=
  [(['h', 't', 't', 'p'], 80), (['h', 't', 't', 'p', 's'], 443), (['w', 's'], 80),
    (['w', 's', 's'], 443), (['f', 't', 'p'], 21)].lookup scheme

/-- The scheme of files. -/
def fileScheme : List Char := ['f', 'i', 'l', 'e']

/-- Whether a backslash separates segments in URLs of a scheme, as a slash does. -/
def isSpecial (scheme : List Char) : Bool :=
  (defaultPort? scheme).isSome || scheme == fileScheme

namespace Url

/-- Whether a character is encoded in a fragment. -/
def encodedInFragment (c : Char) : Bool := isOutsideText c || [' ', '"', '<', '>', '`'].contains c

/-- Whether a character is encoded in a path. -/
def encodedInPath (c : Char) : Bool :=
  encodedInFragment c || ['#', '?', '\x7b', '\x7d'].contains c

/-- Whether a character is encoded in a user name or a password. -/
def encodedInUser (c : Char) : Bool :=
  encodedInPath c || ['/', ':', ';', '=', '@', '[', '\\', ']', '^', '|'].contains c

/-- Whether a character is encoded in a query. -/
def encodedInQuery (special : Bool) (c : Char) : Bool :=
  isOutsideText c || [' ', '"', '#', '<', '>'].contains c || (special && c == '\'')

/-- A text without blanks and control characters around it and without line ends and tabs. -/
def cleaned (s : List Char) : List Char :=
  let trimmed (s : List Char) := s.dropWhile fun c => c.toNat ≤ 0x20
  (trimmed (trimmed s).reverse).reverse.filter fun c => c != '\t' && c != '\n' && c != '\r'

/-- A scheme in lower case, and what follows its colon. -/
def splitScheme (s : List Char) : Option (List Char × List Char) :=
  let scheme := s.takeWhile fun c => c.isAlphanum || c == '+' || c == '-' || c == '.'
  match s.head?, s.drop scheme.length with
  | some c, ':' :: rest => if c.isAlpha then some (scheme.map Char.toLower, rest) else none
  | _, _ => none

/-- What stands before a character, and what after it if it occurs. -/
def splitAtChar (mark : Char) (s : List Char) : List Char × Option (List Char) :=
  (s.takeWhile (· != mark),
    if s.contains mark then some ((s.dropWhile (· != mark)).drop 1) else none)

/-- Whether a character separates segments. -/
def isSeparator (special : Bool) (c : Char) : Bool := c == '/' || (special && c == '\\')

/-- Whether a segment is a drive letter, after which nothing may go up. -/
def isDrive (s : List Char) : Bool :=
  match s with
  | [c, mark] => c.isAlpha && (mark == ':' || mark == '|')
  | _ => false

/-- A segment with its encoded dots decoded and in lower case. -/
def plainDots : List Char → List Char
  | '%' :: '2' :: 'e' :: r => '.' :: plainDots r
  | '%' :: '2' :: 'E' :: r => '.' :: plainDots r
  | c :: r => c :: plainDots r
  | [] => []

/-- Segments without the last one, unless it is a drive letter. -/
def shorten (segments : List (List Char)) : List (List Char) :=
  if segments.getLast?.any isDrive then segments else segments.dropLast

/-- The segments that lead from segments on; dots stay or go up. After dots at the end comes an
empty segment. -/
def follow (scheme : List Char) (before : List (List Char)) : List (List Char) → List (List Char)
  | [] => before
  | s :: rest =>
    let dots := plainDots s
    if dots == ['.', '.'] then
      follow scheme (if rest.isEmpty then shorten before ++ [[]] else shorten before) rest
    else if dots == ['.'] then
      follow scheme (if rest.isEmpty then before ++ [[]] else before) rest
    else
      let s := if scheme == fileScheme && isDrive s then s.take 1 ++ [':'] else s
      follow scheme (before ++ [percentEncode encodedInPath s]) rest

/-- The segments of a path, whose first separator may be missing. -/
def parseSegments (scheme s : List Char) : List (List Char) :=
  let special := isSpecial scheme
  let s := match s with
    | c :: r => if isSeparator special c then r else c :: r
    | [] => []
  follow scheme [] (s.splitOnP (isSeparator special))

/-- What stands before and after the last at sign. -/
def splitUser (s : List Char) : Option (List Char × List Char) :=
  if s.contains '@' then
    let host := (s.reverse.takeWhile (· != '@')).reverse
    some (s.take (s.length - host.length - 1), host)
  else none

/-- A host and the port after it, which starts with a colon outside of brackets. -/
def splitPort : Bool → List Char → List Char × Option (List Char)
  | _, [] => ([], none)
  | inside, c :: r =>
    if c == ':' && !inside then ([], some r)
    else
      let inside := c == '[' || (inside && c != ']')
      let (host, port) := splitPort inside r
      (c :: host, port)

/-- The number of a port; an empty one is none. -/
def parsePort (s : List Char) : Except UrlError (Option Nat) :=
  if s.isEmpty then .ok none
  else match Text.numberIn? 10 s with
    | some n => if n ≤ 65535 then .ok (some n) else .error .badPort
    | none => .error .badPort

/-- Users, host and port of a URL, all of it without path, query and fragment. -/
def parseAuthority (scheme s : List Char) : Except UrlError Url := do
  let special := isSpecial scheme
  let (user, rest) := match splitUser s with
    | some (user, rest) => (some user, rest)
    | none => (none, s)
  let (hostText, portText) := splitPort false rest
  if hostText.isEmpty && (special || user.isSome) then throw .emptyHost
  let host ← if special then Host.parse hostText else Host.parsePlain hostText
  if hostText.isEmpty && portText.isSome then throw .emptyHost
  let port ← parsePort (portText.getD [])
  let (username, password) := splitAtChar ':' (user.getD [])
  return {
    scheme := scheme
    username := percentEncode encodedInUser username
    password := percentEncode encodedInUser (password.getD [])
    host := some host
    port := if port == defaultPort? scheme then none else port
    path := .segments []
    query := none
    fragment := none }

/-- A URL without users and port. -/
def plain (scheme : List Char) (host : Option Host) (path : UrlPath) : Url :=
  ⟨scheme, [], [], host, none, path, none, none⟩

/-- A path of a file, which has no empty segments at its start. -/
def filePath (s : List Char) : List (List Char) :=
  let parts := parseSegments fileScheme s
  match parts.dropWhile (·.isEmpty) with
  | [] => [[]]
  | parts => parts

/-- The URL of a file, given what follows its scheme. -/
def parseFile (s : List Char) : Except UrlError Url :=
  let hostless (path : List Char) := plain fileScheme (some (.name [])) (.segments (filePath path))
  match s with
  | a :: b :: r =>
    if isSeparator true a && isSeparator true b then
      let host := r.takeWhile fun c => !isSeparator true c
      let path := r.dropWhile fun c => !isSeparator true c
      if host.isEmpty then .ok (hostless path)
      else if isDrive host then .ok (hostless r)
      else
        match Host.parse host with
        | .error e => .error e
        | .ok host =>
          let path := filePath path
          let host := if host == .name ['l', 'o', 'c', 'a', 'l', 'h', 'o', 's', 't'] ||
            path.head?.any isDrive then .name [] else host
          .ok (plain fileScheme (some host) (.segments path))
    else .ok (hostless s)
  | s => .ok (hostless s)

/-- What stands between the scheme and the query of a URL. -/
def parseMiddle (scheme s : List Char) : Except UrlError Url :=
  if scheme == fileScheme then parseFile s
  else
    let special := isSpecial scheme
    let withAuthority (s : List Char) : Except UrlError Url := do
      let authority := s.takeWhile fun c => !isSeparator special c
      let path := s.dropWhile fun c => !isSeparator special c
      let u ← parseAuthority scheme authority
      return { u with path := .segments (if path.isEmpty && !special then []
        else parseSegments scheme path) }
    if special then withAuthority (s.dropWhile (isSeparator true))
    else
      match s with
      | '/' :: '/' :: r => withAuthority r
      | '/' :: r => .ok (plain scheme none (.segments (parseSegments scheme ('/' :: r))))
      | s => .ok (plain scheme none (.single (percentEncode isOutsideText s)))

/-- The URL that a text is. -/
def parse (text : String) : Except UrlError Url :=
  match splitScheme (cleaned text.toList) with
  | none => .error .relative
  | some (scheme, rest) => do
    let (rest, fragment) := splitAtChar '#' rest
    let (rest, query) := splitAtChar '?' rest
    let u ← parseMiddle scheme rest
    return { u with
      query := query.map (percentEncode (encodedInQuery (isSpecial scheme)))
      fragment := fragment.map (percentEncode encodedInFragment) }

/-- The text of a path. -/
def pathText : UrlPath → List Char
  | .single s => s
  | .segments parts => parts.flatMap ('/' :: ·)

/-- User name and password with their marks. -/
def userText (u : Url) : List Char :=
  if u.username.isEmpty && u.password.isEmpty then []
  else u.username ++ (if u.password.isEmpty then [] else ':' :: u.password) ++ ['@']

/-- What stands before the path. A path that would look like a host gets a dot before it. -/
def authorityText (u : Url) : List Char :=
  match u.host with
  | some host =>
    ['/', '/'] ++ u.userText ++ host.text ++
      (match u.port with
        | some port => ':' :: Nat.toDigits 10 port
        | none => [])
  | none =>
    match u.path with
    | .segments ([] :: _ :: _) => ['/', '.']
    | _ => []

/-- The text of a URL. -/
def text (u : Url) : String :=
  String.ofList (u.scheme ++ ':' :: u.authorityText ++ pathText u.path ++
    (match u.query with
      | some q => '?' :: q
      | none => []) ++
    (match u.fragment with
      | some f => '#' :: f
      | none => []))

/-- The URL with another path. The path of a URL that has no segments starts with no slash. -/
def withPath (u : Url) (path : List Char) : Url :=
  { u with path := match u.path with
    | .single _ => .single (percentEncode isOutsideText path)
    | .segments _ =>
      .segments (if u.scheme == fileScheme then filePath path else parseSegments u.scheme path) }

/-- The URL that a path leads to from a base. It takes the place of what stands behind the last
slash of the base's path, and of the query and the fragment. It has neither a scheme nor a slash at
its start, and no query and no fragment of its own. -/
def join (base : Url) (path : List Char) : Except UrlError Url :=
  match base.path with
  | .single _ => .error .noBase
  | .segments parts =>
    let before := if base.scheme == fileScheme then shorten parts else parts.dropLast
    let steps := path.splitOnP (isSeparator (isSpecial base.scheme))
    .ok { base with
      path := .segments (follow base.scheme before steps)
      query := none
      fragment := none }

/-- The pairs of the query. -/
def queryPairs (u : Url) : List (String × String) := Form.decode (u.query.getD [])

/-- The URL with pairs added to its query. -/
def addPairs (u : Url) (pairs : List (String × String)) : Url :=
  let added := Form.encode pairs
  { u with query := some (match u.query with
    | none => added
    | some [] => added
    | some q => q ++ '&' :: added) }

end Url
end SchemaSdk.Web
