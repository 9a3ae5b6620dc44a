import SchemaSdk.Web.Url

/-!
# HTTP

Requests and replies, as far as logging in needs them, and a network that answers requests.
-/
namespace SchemaSdk.Web

/-- What a request asks for. A form is sent along with a request to post it. -/
inductive Action where
  | get
  | post (form : List (String × String))
  deriving DecidableEq

/-- A request to a provider. -/
structure Request where
  action : Action
  url : Url
  deriving DecidableEq

/-- The kind of content that requests and replies of providers have. -/
def jsonType : String := "application/json"

/-- A reply to a request. -/
structure Reply where
  status : Nat
  contentType : Option String
  body : List UInt8
  deriving DecidableEq

/-- What every request is answered with; nothing if there is no connection. -/
abbrev Network := Request → Option Reply

/-- A network without any connection. -/
def unconnected : Network := fun _ => none

/-- The names of the status codes that have one. -/
def statusNames : List (Nat × String) := [
  (100, "Continue"), (101, "Switching Protocols"), (102, "Processing"), (103, "Early Hints"),
  (200, "OK"), (201, "Created"), (202, "Accepted"), (203, "Non Authoritative Information"),
  (204, "No Content"), (205, "Reset Content"), (206, "Partial Content"), (207, "Multi-Status"),
  (208, "Already Reported"), (226, "IM Used"), (300, "Multiple Choices"),
  (301, "Moved Permanently"), (302, "Found"), (303, "See Other"), (304, "Not Modified"),
  (305, "Use Proxy"), (307, "Temporary Redirect"), (308, "Permanent Redirect"),
  (400, "Bad Request"), (401, "Unauthorized"), (402, "Payment Required"), (403, "Forbidden"),
  (404, "Not Found"), (405, "Method Not Allowed"), (406, "Not Acceptable"),
  (407, "Proxy Authentication Required"), (408, "Request Timeout"), (409, "Conflict"),
  (410, "Gone"), (411, "Length Required"), (412, "Precondition Failed"),
  (413, "Payload Too Large"), (414, "URI Too Long"), (415, "Unsupported Media Type"),
  (416, "Range Not Satisfiable"), (417, "Expectation Failed"), (418, "I'm a teapot"),
  (421, "Misdirected Request"), (422, "Unprocessable Entity"), (423, "Locked"),
  (424, "Failed Dependency"), (425, "Too Early"), (426, "Upgrade Required"),
  (428, "Precondition Required"), (429, "Too Many Requests"),
  (431, "Request Header Fields Too Large"), (451, "Unavailable For Legal Reasons"),
  (500, "Internal Server Error"), (501, "Not Implemented"), (502, "Bad Gateway"),
  (503, "Service Unavailable"), (504, "Gateway Timeout"), (505, "HTTP Version Not Supported"),
  (506, "Variant Also Negotiates"), (507, "Insufficient Storage"), (508, "Loop Detected"),
  (510, "Not Extended"), (511, "Network Authentication Required")]

/-- A status code and its name. -/
def statusText (code : Nat) : String :=
  toString code ++ " " ++ (statusNames.lookup code).getD "<unknown status code>"

/-- Whether a status code says that a request succeeded. -/
def isSuccess (code : Nat) : Bool := 200 ≤ code && code < 300

/-- A byte of a header as messages show it. -/
def shownHeaderByte (b : UInt8) : List Char :=
  if b = 0x22 then ['\\', '"']
  else if b = 0x09 ∨ (0x20 ≤ b ∧ b < 0x7f) then [Char.ofNat b.toNat]
  else ['\\', 'x'] ++ Text.hexDigits b.toNat

/-- The value of a header as messages show it. -/
def quotedHeader (s : String) : String :=
  String.ofList ('"' :: (Bytes.Utf8.encode s.toList).flatMap shownHeaderByte ++ ['"'])

end SchemaSdk.Web
