import SchemaSdk.Schema.Token
import SchemaSdk.Text.Blank
import SchemaSdk.Text.Digits

/-!
# Values of string and number literals

What a literal means: strings with their escapes, block strings without their common indentation,
and the numbers that can be represented.
-/
namespace SchemaSdk.Schema

open SchemaSdk.Text (hexValue? numberIn? integerBound charOfCodePoint?)

/-- Why a string literal has no value. -/
inductive EscapeFault where
  | shortCodePoint (digits : List Char)
  | badCodePoint (digits : List Char)
  | unknown (c : Char)
  deriving DecidableEq

/-- What a message says about a faulty escape. -/
def EscapeFault.message : EscapeFault → String
  | shortCodePoint ds =>
    "\\u must have 4 characters after it, only found '" ++ String.ofList ds ++ "'"
  | badCodePoint ds => String.ofList ds ++ " is not a valid unicode code point"
  | unknown c => "bad escaped char " ++ Text.quotedChar c

/-- The character that four digits name; a plus sign may stand before the others. -/
def codePoint? (ds : List Char) : Option Char :=
  let digits := match ds with
    | '+' :: d :: r => d :: r
    | ds => ds
  (hexValue? digits).bind charOfCodePoint?

/-- The value of the characters between the quotes of a string. -/
def unescape : List Char → Except EscapeFault (List Char)
  | [] => .ok []
  | '\\' :: 'u' :: a :: b :: c :: d :: r =>
    match codePoint? [a, b, c, d] with
    | some x => (unescape r).map (x :: ·)
    | none => .error (.badCodePoint [a, b, c, d])
  | '\\' :: 'u' :: r => .error (.shortCodePoint r)
  | '\\' :: c :: r =>
    match c with
    | '"' | '\\' | '/' => (unescape r).map (c :: ·)
    | 'b' => (unescape r).map ('\x10' :: ·)
    | 'f' => (unescape r).map ('\x0c' :: ·)
    | 'n' => (unescape r).map ('\n' :: ·)
    | 'r' => (unescape r).map ('\r' :: ·)
    | 't' => (unescape r).map ('\t' :: ·)
    | _ => .error (.unknown c)
  | c :: r => (unescape r).map (c :: ·)

/-- The length of a text in bytes. -/
def byteLength (s : List Char) : Nat := s.foldl (fun n c => n + c.utf8Size) 0

/-- How many bytes the leading blanks of a line take. -/
def indentation (line : List Char) : Nat := byteLength (line.takeWhile Text.isBlank)

/-- Whether a line has nothing but blanks. -/
def isBlankLine (line : List Char) : Bool := line.all Text.isBlank

/-- A text without the characters that its first bytes make up. -/
def dropBytes : Nat → List Char → List Char
  | 0, s => s
  | _, [] => []
  | n, c :: r => dropBytes (n - c.utf8Size) r

/-- Three quotes written after a backslash stand for themselves. -/
def unescapeQuotes : List Char → List Char
  | [] => []
  | '\\' :: '"' :: '"' :: '"' :: r => '"' :: '"' :: '"' :: unescapeQuotes r
  | c :: r => c :: unescapeQuotes r

/-- A line without the common indentation, if it is long enough to have it. -/
def dedent (indent : Option Nat) (line : List Char) : List Char :=
  match indent with
  | none => line
  | some n => if n ≤ byteLength line then dropBytes n line else line

/-- Lines without the blank ones before the first and after the last visible one. -/
def visibleSpan (ls : List (List Char)) : List (List Char) :=
  ((ls.dropWhile isBlankLine).reverse.dropWhile isBlankLine).reverse

/-- The value of the characters between the quotes of a block string. The first line keeps its
indentation and does not count for the common one, nor do blank lines. -/
def blockValue (s : List Char) : List Char :=
  match Text.lines s with
  | [] => []
  | first :: rest =>
    let indent := ((rest.filter (!isBlankLine ·)).map indentation).min?
    ['\n'].intercalate ((visibleSpan (first :: rest.map (dedent indent))).map unescapeQuotes)

/-- The text between the quotes of a literal, of which there are `n` at each end. -/
def betweenQuotes (n : Nat) (source : List Char) : List Char :=
  (source.drop n).take (source.length - 2 * n)

/-- The number that an integer literal denotes. -/
def integerValue (source : List Char) : Int :=
  let natural (ds : List Char) : Nat := (numberIn? 10 ds).getD 0
  match source with
  | '-' :: ds => -(natural ds : Int)
  | ds => natural ds

/-- Whether an integer literal is within the range of 64 bits. -/
def integerFits (source : List Char) : Bool :=
  let n := integerValue source
  n < integerBound && -(integerBound : Int) ≤ n

/-- Whether a decimal literal has a value, which one with an empty exponent has not. -/
def decimalFits (source : List Char) : Bool :=
  source.getLast?.any Char.isDigit

end SchemaSdk.Schema
