import SchemaSdk.Text.Digits
import SchemaSdk.Toml.Value

/-!
# TOML strings, numbers, dates and times

Readers for the values without parts. Each takes a value from the start of a text and gives what
follows it.
-/
namespace SchemaSdk.Toml

open SchemaSdk.Text (hexDigit? hexValue? numberIn? integerBound charOfCodePoint?)

/-- Whether a character is a blank within a line. -/
def isSpace (c : Char) : Bool := c == ' ' || c == '\t'

/-- A text without blanks at its start. -/
def skipSpace (s : List Char) : List Char := s.dropWhile isSpace

/-- Whether a character may stand in comments and in strings without being escaped. -/
def isPlain (c : Char) : Bool := c == '\t' || (0x20 ≤ c.toNat && c.toNat != 0x7f)

/-- What follows a line end at the start of a text. -/
def newline? : List Char → Option (List Char)
  | '\n' :: r => some r
  | '\r' :: '\n' :: r => some r
  | _ => none

/-- A text without blanks and line ends at its start. -/
def skipLines : List Char → List Char
  | '\r' :: '\n' :: r => skipLines r
  | c :: r => if isSpace c || c == '\n' then skipLines r else c :: r
  | [] => []

/-- The character for an escape of one letter. -/
def simpleEscape? : Char → Option Char
  | '"' => some '"'
  | '\\' => some '\\'
  | 'b' => some '\x08'
  | 'f' => some '\x0c'
  | 'n' => some '\n'
  | 'r' => some '\r'
  | 't' => some '\t'
  | _ => none

/-- The character that the part of an escape behind its backslash stands for. -/
def readEscape : List Char → Option (Char × List Char)
  | 'u' :: a :: b :: c :: d :: r =>
    ((hexValue? [a, b, c, d]).bind charOfCodePoint?).map (·, r)
  | 'U' :: a :: b :: c :: d :: e :: f :: g :: h :: r =>
    ((hexValue? [a, b, c, d, e, f, g, h]).bind charOfCodePoint?).map (·, r)
  | c :: r => (simpleEscape? c).map (·, r)
  | [] => none

/-- The rest of a string on one line. The fuel is at least the length of the text. -/
def readBasic : Nat → List Char → Option (List Char × List Char)
  | 0, _ => none
  | fuel + 1, s =>
    match s with
    | [] => none
    | '"' :: r => some ([], r)
    | '\\' :: r =>
      match readEscape r with
      | none => none
      | some (c, r) => (readBasic fuel r).map fun (s, rest) => (c :: s, rest)
    | c :: r =>
      if isPlain c then (readBasic fuel r).map fun (s, rest) => (c :: s, rest) else none

/-- The rest of a literal string on one line. -/
def readLiteral : List Char → Option (List Char × List Char)
  | [] => none
  | '\'' :: r => some ([], r)
  | c :: r => if isPlain c then (readLiteral r).map fun (s, rest) => (c :: s, rest) else none

/-- What three or more quotes in a row mean: the first up to two belong to the string, and the
last three end it. -/
def closing? (quote : Char) (s : List Char) : Option (List Char × List Char) :=
  let run := s.takeWhile (· == quote)
  if 3 ≤ run.length then
    some (List.replicate (min (run.length - 3) 2) quote, s.drop (min run.length 5))
  else none

/-- The rest of a string over several lines. A backslash at the end of a line takes the blanks and
line ends after it along. -/
def readLong : Nat → List Char → Option (List Char × List Char)
  | 0, _ => none
  | fuel + 1, s =>
    match closing? '"' s with
    | some found => some found
    | none =>
      match s with
      | [] => none
      | '\\' :: r =>
        match newline? (skipSpace r) with
        | some r => readLong fuel (skipLines r)
        | none =>
          match readEscape r with
          | none => none
          | some (c, r) => (readLong fuel r).map fun (s, rest) => (c :: s, rest)
      | c :: r =>
        match newline? (c :: r) with
        | some r => (readLong fuel r).map fun (s, rest) => ('\n' :: s, rest)
        | none =>
          if isPlain c then (readLong fuel r).map fun (s, rest) => (c :: s, rest) else none

/-- The rest of a literal string over several lines. -/
def readLongLiteral : Nat → List Char → Option (List Char × List Char)
  | 0, _ => none
  | fuel + 1, s =>
    match closing? '\'' s with
    | some found => some found
    | none =>
      match s with
      | [] => none
      | c :: r =>
        match newline? (c :: r) with
        | some r => (readLongLiteral fuel r).map fun (s, rest) => ('\n' :: s, rest)
        | none =>
          if isPlain c then (readLongLiteral fuel r).map fun (s, rest) => (c :: s, rest) else none

/-- A text without a line end at its very start. -/
def dropNewline (s : List Char) : List Char := (newline? s).getD s

/-- A string of any kind. -/
def readString (s : List Char) : Option (List Char × List Char) :=
  match s with
  | '"' :: '"' :: '"' :: r => readLong (s.length + 1) (dropNewline r)
  | '"' :: r => readBasic (s.length + 1) r
  | '\'' :: '\'' :: '\'' :: r => readLongLiteral (s.length + 1) (dropNewline r)
  | '\'' :: r => readLiteral r
  | _ => none

/-- Digits of a kind, single underscores between them, without the underscores. -/
def digits? (isDigit : Char → Bool) : List Char → Option (List Char)
  | [] => none
  | [c] => if isDigit c then some [c] else none
  | c :: '_' :: r => if isDigit c then (digits? isDigit r).map (c :: ·) else none
  | c :: d :: r => if isDigit c then (digits? isDigit (d :: r)).map (c :: ·) else none

/-- The value of digits in a base. -/
def valueOf (base : Nat) (ds : List Char) : Nat :=
  (numberIn? base ds).getD 0

/-- The part of a text behind a sign. -/
def unsigned : List Char → List Char
  | '+' :: r => r
  | '-' :: r => r
  | s => s

/-- Whether the characters are a whole number without a leading zero. -/
def isWhole (s : List Char) : Bool :=
  match digits? Char.isDigit (unsigned s) with
  | some ('0' :: _ :: _) => false
  | some _ => true
  | none => false

/-- Whether a whole number is within the range of 64 bits. -/
def wholeFits (s : List Char) : Bool :=
  match digits? Char.isDigit (unsigned s) with
  | some ds => valueOf 10 ds < integerBound + (if s.head? == some '-' then 1 else 0)
  | none => false

/-- Whether the characters are an integer, in base ten with a sign or in another base without. -/
def isInteger (s : List Char) : Bool :=
  let inBase (base : Nat) (ds : List Char) : Bool :=
    match digits? (fun c => (hexDigit? c).any (· < base)) ds with
    | some ds => valueOf base ds < integerBound
    | none => false
  match s with
  | '0' :: 'x' :: ds => inBase 16 ds
  | '0' :: 'o' :: ds => inBase 8 ds
  | '0' :: 'b' :: ds => inBase 2 ds
  | s => isWhole s && wholeFits s

/-- Whether the characters are a number with a fraction, an exponent or both, or one of the values
that are no number. -/
def isFloat (s : List Char) : Bool :=
  let isSpecial := unsigned s == ['i', 'n', 'f'] || unsigned s == ['n', 'a', 'n']
  let (mantissa, exponent) := s.span fun c => c != 'e' && c != 'E'
  let (whole, fraction) := mantissa.span (· != '.')
  let plain (ds : List Char) : Bool := (digits? Char.isDigit ds).isSome
  let hasExponent := !exponent.isEmpty
  let hasFraction := !fraction.isEmpty
  isSpecial || ((hasExponent || hasFraction) && isWhole whole &&
    (!hasExponent || plain (unsigned exponent.tail)) && (!hasFraction || plain fraction.tail))

/-- The number that exactly so many digits spell, which all the characters have to be. -/
def fixed? (width : Nat) (ds : List Char) : Option Nat :=
  if ds.length == width && ds.all Char.isDigit then some (valueOf 10 ds) else none

/-- How many days a month has. -/
def daysIn (year month : Nat) : Nat :=
  if month == 2 then
    if year % 4 == 0 && (year % 100 != 0 || year % 400 == 0) then 29 else 28
  else if [4, 6, 9, 11].contains month then 30 else 31

/-- Whether the characters are a date. -/
def isDate (s : List Char) : Bool :=
  match s.splitOn '-' with
  | [y, m, d] =>
    match fixed? 4 y, fixed? 2 m, fixed? 2 d with
    | some y, some m, some d => 1 ≤ m && m ≤ 12 && 1 ≤ d && d ≤ daysIn y m
    | _, _, _ => false
  | _ => false

/-- Whether the characters are hours and minutes. -/
def isClock (s : List Char) : Bool :=
  match s.splitOn ':' with
  | [h, m] =>
    match fixed? 2 h, fixed? 2 m with
    | some h, some m => h ≤ 23 && m ≤ 59
    | _, _ => false
  | _ => false

/-- Whether the characters are a time of day. -/
def isTime (s : List Char) : Bool :=
  let (clock, fraction) := s.span (· != '.')
  (fraction.isEmpty || (fraction.tail.length != 0 && fraction.tail.all Char.isDigit)) &&
    isClock (clock.take 5) && (clock.drop 5).head? == some ':' &&
    (fixed? 2 (clock.drop 6)).any (· ≤ 60)

/-- Whether the characters are the distance of a time zone. -/
def isOffset : List Char → Bool
  | ['Z'] => true
  | ['z'] => true
  | '+' :: r => isClock r
  | '-' :: r => isClock r
  | _ => false

/-- Whether the characters are a date, a time, or both with or without a time zone. -/
def isDateTime (s : List Char) : Bool :=
  let date := s.take 10
  match s.drop 10 with
  | [] => isDate date || isTime s
  | mark :: r =>
    let (time, offset) := r.span fun c => c.isDigit || c == ':' || c == '.'
    (isDate date && (mark == 'T' || mark == 't' || mark == ' ') && isTime time &&
      (offset.isEmpty || isOffset offset)) || isTime s

/-- Whether a character may be part of a number, a date or a word. -/
def isScalarPart (c : Char) : Bool :=
  c.isAlphanum || c == '_' || c == '+' || c == '-' || c == '.' || c == ':'

/-- A number, a date, a time or a truth value. A blank may stand between a date and a time. -/
def readScalar (s : List Char) : Option (Toml × List Char) :=
  let run := s.takeWhile isScalarPart
  let rest := s.dropWhile isScalarPart
  let dated : Option (Toml × List Char) :=
    match rest with
    | ' ' :: r =>
      let time := r.takeWhile isScalarPart
      let both := run ++ ' ' :: time
      if isDate run && isDateTime both then
        some (dateTime (String.ofList both), r.dropWhile isScalarPart)
      else none
    | _ => none
  match dated with
  | some found => some found
  | none =>
    if run == ['t', 'r', 'u', 'e'] then some (bool true, rest)
    else if run == ['f', 'a', 'l', 's', 'e'] then some (bool false, rest)
    else if isInteger run || isFloat run then some (number (String.ofList run), rest)
    else if isDateTime run then some (dateTime (String.ofList run), rest)
    else none

end SchemaSdk.Toml
