import SchemaSdk.Json.Value
import SchemaSdk.Text.Digits

/-!
# Reading JSON

A reader takes a value from the start of a text and gives what follows it. The text of a value may
hold blanks between its parts. The fuel bounds the nesting and the number of parts; the length of
the text is always enough.
-/
namespace SchemaSdk.Json

open SchemaSdk.Text (hexValue? charOfCodePoint?)

/-- Whether a character is a blank between the parts of a value. -/
def isSpace (c : Char) : Bool := c == ' ' || c == '\n' || c == '\r' || c == '\t'

/-- A text without leading blanks. -/
def skipSpace (s : List Char) : List Char := s.dropWhile isSpace

/-- The unit of sixteen bits that four hexadecimal digits name. -/
def unit? (a b c d : Char) : Option Nat := hexValue? [a, b, c, d]

/-- The character for an escape of one letter. -/
def simpleEscape? : Char → Option Char
  | '"' => some '"'
  | '\\' => some '\\'
  | '/' => some '/'
  | 'b' => some '\x08'
  | 'f' => some '\x0c'
  | 'n' => some '\n'
  | 'r' => some '\r'
  | 't' => some '\t'
  | _ => none

/-- Whether a unit is the first half of a pair. -/
def isHighHalf (n : Nat) : Bool := 0xd800 ≤ n && n < 0xdc00

/-- Whether a unit is the second half of a pair. -/
def isLowHalf (n : Nat) : Bool := 0xdc00 ≤ n && n < 0xe000

/-- The characters of a string up to its closing quote, and what follows it. Code points beyond
sixteen bits are written as a pair of halves, and a half alone is refused. -/
def readString : List Char → Option (List Char × List Char)
  | [] => none
  | '"' :: r => some ([], r)
  | '\\' :: 'u' :: a :: b :: c :: d :: '\\' :: 'u' :: e :: f :: g :: h :: r =>
    match unit? a b c d with
    | none => none
    | some high =>
      if isHighHalf high then
        match unit? e f g h with
        | none => none
        | some low =>
          if isLowHalf low then
            (readString r).map fun (s, rest) =>
              (Char.ofNat (0x10000 + (high - 0xd800) * 0x400 + (low - 0xdc00)) :: s, rest)
          else none
      else
        match charOfCodePoint? high with
        | none => none
        | some x =>
          (readString ('\\' :: 'u' :: e :: f :: g :: h :: r)).map fun (s, rest) => (x :: s, rest)
  | '\\' :: 'u' :: a :: b :: c :: d :: r =>
    match (unit? a b c d).bind charOfCodePoint? with
    | none => none
    | some x => (readString r).map fun (s, rest) => (x :: s, rest)
  | '\\' :: c :: r =>
    match simpleEscape? c with
    | none => none
    | some x => (readString r).map fun (s, rest) => (x :: s, rest)
  | c :: r =>
    if c = '\\' ∨ c.toNat < 0x20 then none
    else (readString r).map fun (s, rest) => (c :: s, rest)

/-- An escape of one letter is read as what it stands for. -/
theorem readString_simple {c e : Char} {s r rest : List Char} (h : simpleEscape? e = some c)
    (hs : readString r = some (s, rest)) :
    readString ('\\' :: e :: r) = some (c :: s, rest) := by
  have hunit : e ≠ 'u' := by
    rintro rfl
    cases h
  rw [readString, h, hs]
  · rfl
  · intro _ _ _ _ _ _ _ _ _ hu
    exact absurd hu hunit
  · intro _ _ _ _ _ hu
    exact absurd hu hunit

/-- The digits at the start of a text, at least one, and what follows them. -/
def readDigits (s : List Char) : Option (List Char × List Char) :=
  match s.takeWhile Char.isDigit with
  | [] => none
  | ds => some (ds, s.dropWhile Char.isDigit)

/-- The digits of a whole number, without a leading zero. -/
def readWhole : List Char → Option (List Char × List Char)
  | '0' :: c :: r => if c.isDigit then none else some (['0'], c :: r)
  | s => readDigits s

/-- A fraction, if a point comes next. -/
def readFraction : List Char → Option (List Char × List Char)
  | '.' :: r => (readDigits r).map fun (ds, rest) => ('.' :: ds, rest)
  | s => some ([], s)

/-- An exponent, if its mark comes next. -/
def readExponent : List Char → Option (List Char × List Char)
  | m :: r =>
    if m = 'e' ∨ m = 'E' then
      match r with
      | sign :: r' =>
        if sign = '+' ∨ sign = '-' then
          (readDigits r').map fun (ds, rest) => (m :: sign :: ds, rest)
        else (readDigits r).map fun (ds, rest) => (m :: ds, rest)
      | [] => none
    else some ([], m :: r)
  | [] => some ([], [])

/-- A number. -/
def readNumber (s : List Char) : Option (List Char × List Char) := do
  let (sign, s) := match s with
    | '-' :: r => (['-'], r)
    | s => ([], s)
  let (whole, s) ← readWhole s
  let (fraction, s) ← readFraction s
  let (exponent, s) ← readExponent s
  return (sign ++ whole ++ fraction ++ exponent, s)

mutual

/-- A value. -/
def readValue : Nat → List Char → Option (Json × List Char)
  | 0, _ => none
  | fuel + 1, s =>
    match skipSpace s with
    | 'n' :: 'u' :: 'l' :: 'l' :: r => some (null, r)
    | 't' :: 'r' :: 'u' :: 'e' :: r => some (bool true, r)
    | 'f' :: 'a' :: 'l' :: 's' :: 'e' :: r => some (bool false, r)
    | '"' :: r => (readString r).map fun (s, rest) => (string (String.ofList s), rest)
    | '[' :: r =>
      match skipSpace r with
      | ']' :: rest => some (array [], rest)
      | r => (readItems fuel r).map fun (vs, rest) => (array vs, rest)
    | '\x7b' :: r =>
      match skipSpace r with
      | '\x7d' :: rest => some (object [], rest)
      | r => (readMembers fuel r).map fun (ms, rest) => (object ms, rest)
    | s => (readNumber s).map fun (ds, rest) => (number ds, rest)

/-- The items of an array, and its end. -/
def readItems : Nat → List Char → Option (List Json × List Char)
  | 0, _ => none
  | fuel + 1, s =>
    match readValue fuel s with
    | none => none
    | some (v, r) =>
      match skipSpace r with
      | ',' :: r => (readItems fuel r).map fun (vs, rest) => (v :: vs, rest)
      | ']' :: rest => some ([v], rest)
      | _ => none

/-- The members of an object, and its end. -/
def readMembers : Nat → List Char → Option (List (String × Json) × List Char)
  | 0, _ => none
  | fuel + 1, s =>
    match skipSpace s with
    | '"' :: r =>
      match readString r with
      | none => none
      | some (k, r) =>
        match skipSpace r with
        | ':' :: r =>
          match readValue fuel r with
          | none => none
          | some (v, r) =>
            match skipSpace r with
            | ',' :: r =>
              (readMembers fuel r).map fun (ms, rest) => ((String.ofList k, v) :: ms, rest)
            | '\x7d' :: rest => some ([(String.ofList k, v)], rest)
            | _ => none
        | _ => none
    | _ => none

end

section

variable {c : Char} {s r rest : List Char} {fuel : Nat}

theorem skipSpace_cons (h : isSpace c = false) : skipSpace (c :: s) = c :: s := by
  rw [skipSpace, List.dropWhile_cons_of_neg]
  simp [h]

theorem readValue_array {vs : List Json} (hopen : ∀ t, skipSpace r ≠ ']' :: t)
    (hitems : readItems fuel (skipSpace r) = some (vs, rest)) :
    readValue (fuel + 1) ('[' :: r) = some (array vs, rest) := by
  simp only [readValue, skipSpace_cons (c := '[') rfl, hitems, Option.map_some]

theorem readValue_object {ms : List (String × Json)} (hopen : ∀ t, skipSpace r ≠ '\x7d' :: t)
    (hmembers : readMembers fuel (skipSpace r) = some (ms, rest)) :
    readValue (fuel + 1) ('\x7b' :: r) = some (object ms, rest) := by
  simp only [readValue, skipSpace_cons (c := '\x7b') rfl, hmembers, Option.map_some]

end

/-- How deep values may be nested that are kept as a whole. -/
def maxDepth : Nat := 127

/-- Numbers from this one on are rounded to no number with a significand of 53 bits and an exponent
of 11. -/
def floatBound : Nat := (1 <<< 1024) - (1 <<< 970)

/-- The number that digits after a sign denote. -/
def exponentOf (s : List Char) : Int :=
  match s with
  | '-' :: ds => -((Text.numberIn? 10 ds).getD 0 : Int)
  | '+' :: ds => (Text.numberIn? 10 ds).getD 0
  | ds => (Text.numberIn? 10 ds).getD 0

/-- Whether a number is in the range of those with a significand of 53 bits. The power of ten is
compared first, so that no large one is computed. -/
def inFloatRange (number : List Char) : Bool :=
  let unsigned := number.dropWhile (· == '-')
  let mantissa := unsigned.takeWhile fun c => !(c == 'e' || c == 'E')
  let whole := mantissa.takeWhile (· != '.')
  let fraction := mantissa.drop (whole.length + 1)
  let significand := (Text.numberIn? 10 (whole ++ fraction)).getD 0
  let shift := exponentOf (unsigned.drop (mantissa.length + 1)) - fraction.length
  let magnitude := (Nat.toDigits 10 significand).length + shift
  significand == 0 || magnitude < 309 ||
    magnitude == 309 &&
      significand * Nat.pow 10 shift.toNat < floatBound * Nat.pow 10 (-shift).toNat

/-- Whether a value is nested no deeper than so many times and all of its numbers are in range. -/
def fits : Nat → Json → Bool
  | _, number digits => inFloatRange digits
  | n + 1, array items => items.all (fits n)
  | n + 1, object members => members.all fun m => fits n m.2
  | 0, array _ => false
  | 0, object _ => false
  | _, _ => true

/-- The value at the start of a text; what follows it does not matter. -/
def ofStart? (s : List Char) : Option Json :=
  (readValue (2 * s.length + 1) s).map (·.1)

/-- The value that a text is, apart from blanks around it. -/
def ofText? (s : List Char) : Option Json :=
  match readValue (2 * s.length + 1) s with
  | some (v, r) => if (skipSpace r).isEmpty then some v else none
  | none => none

end SchemaSdk.Json
