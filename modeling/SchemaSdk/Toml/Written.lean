import SchemaSdk.Text.Quoted
import SchemaSdk.Toml.Statement

/-!
# Writing TOML

Sections with a header each, and entries that are strings or lists of strings. A string is written
in the first form it fits: between quotes, between apostrophes, between three quotes, between three
apostrophes, or with escapes.
-/
namespace SchemaSdk.Toml

/-- Whether a character is a control character other than a line feed. -/
def isControl (c : Char) : Bool := (c.toNat < 0x20 && c != '\n') || c.toNat == 0x7f

/-- Whether the same character stands three times in a row. -/
def hasThree (quote : Char) : List Char → Bool
  | a :: b :: c :: r =>
    (a == quote && b == quote && c == quote) || hasThree quote (b :: c :: r)
  | _ => false

/-- The forms of a written string. -/
inductive StringForm where
  | basic
  | literal
  | longBasic
  | longLiteral
  | escaped
  | longEscaped
  deriving DecidableEq

/-- The form of a string within one line. -/
def shortForm (s : List Char) : StringForm :=
  if s.any fun c => isControl c || c == '\n' then .escaped
  else if !s.any fun c => c == '"' || c == '\\' then .basic
  else if !s.contains '\'' then .literal
  else .escaped

/-- The form of a string that may take several lines. -/
def form (s : List Char) : StringForm :=
  match shortForm s with
  | .escaped =>
    let clean := !s.any isControl
    if clean && !s.contains '\\' && !hasThree '"' s then .longBasic
    else if clean && !hasThree '\'' s then .longLiteral
    else if s.contains '\n' then .longEscaped
    else .escaped
  | f => f

/-- A character as an escape of its code point. -/
def codePointEscape (c : Char) : List Char :=
  let digits := (Text.hexDigits c.toNat).map Char.toUpper
  ['\\', 'u'] ++ List.replicate (4 - digits.length) '0' ++ digits

/-- How a character stands in a string with escapes. -/
def escape (c : Char) : List Char :=
  if c == '"' then ['\\', '"']
  else if c == '\\' then ['\\', '\\']
  else if c == '\x08' then ['\\', 'b']
  else if c == '\t' then ['\\', 't']
  else if c == '\n' then ['\\', 'n']
  else if c == '\x0c' then ['\\', 'f']
  else if c == '\r' then ['\\', 'r']
  else if isControl c then codePointEscape c
  else [c]

/-- The characters of a string with escapes over several lines. Line feeds stand as they are, and
so do quotes, but for the third in a row. The number says how many quotes stand before. -/
def longEscape : Nat → List Char → List Char
  | _, [] => []
  | n, c :: r =>
    if c == '\n' then '\n' :: longEscape 0 r
    else if c == '"' then
      if n < 2 then '"' :: longEscape (n + 1) r else '\\' :: '"' :: longEscape 0 r
    else escape c ++ longEscape 0 r

/-- A line feed for a string that has one, since the first one after the quotes does not count. -/
def opening (s : List Char) : List Char := if s.contains '\n' then ['\n'] else []

/-- A string in a form. -/
def StringForm.write (s : List Char) : StringForm → List Char
  | basic => '"' :: s ++ ['"']
  | literal => '\'' :: s ++ ['\'']
  | longBasic => ['"', '"', '"'] ++ opening s ++ s ++ ['"', '"', '"']
  | longLiteral => ['\'', '\'', '\''] ++ opening s ++ s ++ ['\'', '\'', '\'']
  | escaped => '"' :: s.flatMap escape ++ ['"']
  | longEscaped => ['"', '"', '"'] ++ opening s ++ longEscape 0 s ++ ['"', '"', '"']

/-- A string as a value. -/
def writeString (s : String) : List Char := (form s.toList).write s.toList

/-- A part of a key. -/
def writeKey (s : String) : List Char :=
  if !s.isEmpty && s.toList.all isBare then s.toList else (shortForm s.toList).write s.toList

/-- The parts of a key. -/
def writePath : List String → List Char
  | [] => []
  | [part] => writeKey part
  | part :: parts => writeKey part ++ '.' :: writePath parts

/-- What is written for a key. -/
inductive Content where
  | one (s : String)
  | many (items : List String)

/-- A list of strings: one within a line, several on a line each. -/
def writeStrings : List String → List Char
  | [] => ['[', ']']
  | [s] => '[' :: writeString s ++ [']']
  | items =>
    ['[', '\n'] ++ items.flatMap (fun s => [' ', ' ', ' ', ' '] ++ writeString s ++ [',', '\n']) ++
      [']']

/-- What is written, as text. -/
def Content.write : Content → List Char
  | one s => writeString s
  | many items => writeStrings items

/-- A header and the entries below it. -/
structure Section where
  path : List String
  entries : List (String × Content)

/-- The lines of a section. -/
def Section.write (s : Section) : List Char :=
  '[' :: writePath s.path ++ [']', '\n'] ++
    s.entries.flatMap fun (key, v) => writeKey key ++ [' ', '=', ' '] ++ v.write ++ ['\n']

/-- Sections with a blank line between them. -/
def writeSections : List Section → List Char
  | [] => []
  | [s] => s.write
  | s :: rest => s.write ++ '\n' :: writeSections rest

end SchemaSdk.Toml
