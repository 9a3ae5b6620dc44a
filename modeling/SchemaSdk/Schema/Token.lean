import SchemaSdk.Schema.Name
import SchemaSdk.Text.Quoted

/-!
# Tokens of the schema language

The lexemes of a schema with their positions. Blanks, commas and comments separate tokens and move
the position; a tab moves it by eight columns, a carriage return not at all. Scanning goes on to
the end of the text or to the first place where no token stands, and keeps which of the two it was.
-/
namespace SchemaSdk.Schema

/-- A line and a column, both counted from one. -/
structure Position where
  line : Nat
  column : Nat
  deriving DecidableEq

namespace Position

/-- The position some columns further on the line. -/
def right (p : Position) (n : Nat) : Position := { p with column := p.column + n }

/-- The start of the next line. -/
def down (p : Position) : Position := ⟨p.line + 1, 1⟩

/-- The position after a text that may hold line feeds. -/
def past (p : Position) : List Char → Position
  | [] => p
  | c :: r => if c = '\n' then p.down.past r else (p.right 1).past r

end Position

/-- The marks of the language. -/
inductive Mark where
  | leftParen | rightParen | leftBracket | rightBracket | leftBrace | rightBrace
  | bang | dollar | colon | equals | atSign | bar | ampersand | ellipsis
  deriving DecidableEq

namespace Mark

/-- How a mark is written. -/
def text : Mark → String
  | leftParen => "(" | rightParen => ")" | leftBracket => "[" | rightBracket => "]"
  | leftBrace => "\x7b" | rightBrace => "\x7d" | bang => "!" | dollar => "$" | colon => ":"
  | equals => "=" | atSign => "@" | bar => "|" | ampersand => "&" | ellipsis => "..."

/-- The mark that a character is by itself. -/
def ofChar? (c : Char) : Option Mark :=
  match c with
  | '(' => some leftParen | ')' => some rightParen
  | '[' => some leftBracket | ']' => some rightBracket
  | '\x7b' => some leftBrace | '\x7d' => some rightBrace
  | '!' => some bang | '$' => some dollar | ':' => some colon | '=' => some equals
  | '@' => some atSign | '|' => some bar | '&' => some ampersand
  | _ => none

end Mark

/-- A lexeme. Numbers and strings keep their source text. -/
inductive Token where
  | mark (m : Mark)
  | name (n : Name)
  | integer (source : List Char)
  | decimal (source : List Char)
  | string (source : List Char)
  | blockString (source : List Char)
  deriving DecidableEq

namespace Token

/-- The text a token was read from. -/
def source : Token → String
  | mark m => m.text
  | name n => n.text
  | integer s | decimal s | string s | blockString s => String.ofList s

/-- The kind of a token, as messages name it. -/
def kind : Token → String
  | mark _ => "Punctuator"
  | name _ => "Name"
  | integer _ => "IntValue"
  | decimal _ => "FloatValue"
  | string _ => "StringValue"
  | blockString _ => "BlockString"

/-- Whether a token opens a bracket. -/
def opens : Token → Bool
  | mark .leftParen | mark .leftBracket | mark .leftBrace => true
  | _ => false

/-- Whether a token closes a bracket. -/
def closes : Token → Bool
  | mark .rightParen | mark .rightBracket | mark .rightBrace => true
  | _ => false

end Token

/-- Why no token stands at a place. -/
inductive LexicalFault where
  | loneDots
  | unknownCharacter (c : Char)
  | badInteger (source : List Char)
  | badDecimal (source : List Char)
  | openString
  | openBlockString
  | tooDeep
  deriving DecidableEq

/-- What a message says about a lexical fault. -/
def LexicalFault.message : LexicalFault → String
  | loneDots => "bare dot '.' is not supported, only \"...\""
  | unknownCharacter c => "unexpected character " ++ Text.quotedChar c
  | badInteger s => "unsupported integer " ++ Text.quoted (String.ofList s)
  | badDecimal s => "unsupported float " ++ Text.quoted (String.ofList s)
  | openString => "unterminated string value"
  | openBlockString => "unterminated block string value"
  | tooDeep => "end of input"

/-- Whether a number ends before the character. -/
def endsNumber (c : Char) : Bool :=
  [' ', '\n', '\r', '\t', ',', '#', '!', '$', ':', '=', '@', '|', '&',
    '(', ')', '[', ']', '\x7b', '\x7d'].contains c

/-- What stands before and after the last character with a property. -/
def splitLast? (p : Char → Bool) (s : List Char) : Option (List Char × List Char) :=
  match s.reverse.span (!p ·) with
  | (_, []) => none
  | (after, _ :: before) => some (before.reverse, after.reverse)

/-- Whether the characters are an integer: an optional sign and digits without a leading zero. -/
def isInteger (s : List Char) : Bool :=
  s == ['0'] || s == ['-', '0'] ||
    (!(['0'].isPrefixOf s) && s != ['-'] && !(['-', '0'].isPrefixOf s) && s.tail.all Char.isDigit)

/-- Whether the characters are the digits after a point. -/
def isFraction (s : List Char) : Bool := !s.isEmpty && s.all Char.isDigit

/-- Whether the characters can follow the mark of an exponent. They start with a sign or with a
digit from one to eight. -/
def isExponent : List Char → Bool
  | [] => false
  | c :: r => (c == '-' || c == '+' || ('0' < c && c < '9')) && r.all Char.isDigit

/-- Whether the character marks an exponent. -/
def isExponentMark (c : Char) : Bool := c == 'e' || c == 'E'

/-- Whether the characters are an integer with a fraction. -/
def isFixed (s : List Char) : Bool :=
  match splitLast? (· == '.') s with
  | some (whole, fraction) => isInteger whole && isFraction fraction
  | none => false

/-- Whether the characters are a decimal number, with a fraction, an exponent or both. -/
def isDecimal (s : List Char) : Bool :=
  match splitLast? isExponentMark s with
  | some (mantissa, exponent) =>
    !exponent.contains '.' && isExponent exponent &&
      (if mantissa.contains '.' then isFixed mantissa else isInteger mantissa)
  | none => isFixed s

/-- The rest of a string up to its closing quote, and what follows it. A backslash takes the
character after it along. -/
def stringBody (escaped : Bool) : List Char → Option (List Char × List Char)
  | [] => none
  | c :: r =>
    if c = '\n' then none
    else if c = '"' ∧ !escaped then some (['"'], r)
    else (stringBody (!escaped && c == '\\') r).map fun (body, rest) => (c :: body, rest)

/-- The rest of a block string up to its closing quotes, and what follows them. Three quotes after a
backslash belong to the string. -/
def blockBody (escaped : Bool) : List Char → Option (List Char × List Char)
  | [] => none
  | '"' :: '"' :: '"' :: r =>
    if escaped then
      (blockBody false r).map fun (body, rest) => ('"' :: '"' :: '"' :: body, rest)
    else some (['"', '"', '"'], r)
  | c :: r => (blockBody (c == '\\') r).map fun (body, rest) => (c :: body, rest)

/-- The token that starts with a character, the text it takes, and what follows. -/
def scanToken (c : Char) (r : List Char) : Except LexicalFault (Token × List Char × List Char) :=
  match Mark.ofChar? c with
  | some m => .ok (.mark m, [c], r)
  | none =>
    if c = '.' then
      match r with
      | '.' :: '.' :: rest => .ok (.mark .ellipsis, ['.', '.', '.'], rest)
      | _ => .error .loneDots
    else if hc : isNameStart c = true then
      let part := r.takeWhile isNamePart
      .ok (.name (.ofChars c part hc List.all_takeWhile), c :: part, r.dropWhile isNamePart)
    else if c = '-' ∨ c.isDigit then
      let part := r.takeWhile (!endsNumber ·)
      let rest := r.dropWhile (!endsNumber ·)
      let number := c :: part
      if part.any (fun d => d == '.' || isExponentMark d) then
        if isDecimal number then .ok (.decimal number, number, rest)
        else .error (.badDecimal number)
      else if isInteger number then .ok (.integer number, number, rest)
      else .error (.badInteger number)
    else if c = '"' then
      match r with
      | '"' :: '"' :: r =>
        match blockBody false r with
        | some (body, rest) =>
          let source := '"' :: '"' :: '"' :: body
          .ok (.blockString source, source, rest)
        | none => .error .openBlockString
      | _ =>
        match stringBody false r with
        | some (body, rest) => .ok (.string (c :: body), c :: body, rest)
        | none => .error .openString
    else .error (.unknownCharacter c)

/-- The text after blanks, commas and comments, and its position. -/
def skipBlanks (inComment : Bool) (p : Position) : List Char → Position × List Char
  | [] => (p, [])
  | c :: r =>
    if inComment then
      if c = '\r' ∨ c = '\n' then skipBlanks false p.down r else skipBlanks true p r
    else if c = '#' then skipBlanks true p r
    else if c = '\n' then skipBlanks false p.down r
    else if c = '\t' then skipBlanks false (p.right 8) r
    else if c = ' ' ∨ c = ',' then skipBlanks false (p.right 1) r
    else if c = '\r' ∨ c = '\ufeff' then skipBlanks false p r
    else (p, c :: r)

/-- A token and where it starts. -/
structure Located where
  position : Position
  token : Token

/-- The tokens of a text that are still to be read, and what comes after the last of them: a place
where no token stands, or with no fault the end of the text. -/
structure Tokens where
  list : List Located
  stop : Position
  fault : Option LexicalFault

/-- The most brackets that may be open at once. -/
def maxDepth : Nat := 50

/-- The tokens of a text. `room` is how many brackets may still be opened, and the fuel is at least
the length of the text. -/
def scanFrom : Nat → Nat → Position → List Char → Tokens
  | 0, _, p, _ => ⟨[], p, none⟩
  | fuel + 1, room, p, s =>
    match skipBlanks false p s with
    | (p, []) => ⟨[], p, none⟩
    | (p, c :: r) =>
      match scanToken c r with
      | .error f => ⟨[], p, some f⟩
      | .ok (token, source, rest) =>
        if token.opens && room == 0 then ⟨[], p, some .tooDeep⟩
        else
          let room := if token.opens then room - 1 else if token.closes then room + 1 else room
          let following := scanFrom fuel room (p.past source) rest
          { following with list := ⟨p, token⟩ :: following.list }

/-- The tokens of a schema text. -/
def scan (s : String) : Tokens :=
  let s := s.toList
  scanFrom (s.length + 1) maxDepth ⟨1, 1⟩ s

end SchemaSdk.Schema
