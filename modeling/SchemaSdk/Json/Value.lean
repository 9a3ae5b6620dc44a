import SchemaSdk.Text.Quoted

/-!
# JSON values

JSON as a data type, and the compact text of a value. Numbers keep their digits, and objects the
order of their members. Strings escape quotes, backslashes and control characters only.
-/
namespace SchemaSdk

/-- A JSON value. -/
inductive Json where
  | null
  | bool (b : Bool)
  | number (digits : List Char)
  | string (s : String)
  | array (items : List Json)
  | object (members : List (String × Json))

namespace Json

/-- A natural number as a value. -/
def ofNat (n : Nat) : Json := number (Nat.toDigits 10 n)

/-- A string, or null for none. -/
def ofString? : Option String → Json
  | some s => string s
  | none => null

/-- How a character stands in a string. -/
def escapeChar (c : Char) : List Char :=
  if c = '"' then ['\\', '"']
  else if c = '\\' then ['\\', '\\']
  else if c = '\n' then ['\\', 'n']
  else if c = '\r' then ['\\', 'r']
  else if c = '\t' then ['\\', 't']
  else if c = '\x08' then ['\\', 'b']
  else if c = '\x0c' then ['\\', 'f']
  else if c.toNat < 0x10 then ['\\', 'u', '0', '0', '0'] ++ Text.hexDigits c.toNat
  else if c.toNat < 0x20 then ['\\', 'u', '0', '0'] ++ Text.hexDigits c.toNat
  else [c]

/-- A string between quotes. -/
def stringChars (s : String) : List Char :=
  '"' :: s.toList.flatMap escapeChar ++ ['"']

mutual

/-- The compact text of a value. -/
def chars : Json → List Char
  | null => ['n', 'u', 'l', 'l']
  | bool true => ['t', 'r', 'u', 'e']
  | bool false => ['f', 'a', 'l', 's', 'e']
  | number digits => digits
  | string s => stringChars s
  | array [] => ['[', ']']
  | array (v :: vs) => '[' :: chars v ++ itemChars vs
  | object [] => ['\x7b', '\x7d']
  | object ((k, v) :: ms) => '\x7b' :: stringChars k ++ ':' :: chars v ++ memberChars ms

/-- The items of an array after the first, and its end. -/
def itemChars : List Json → List Char
  | [] => [']']
  | v :: vs => ',' :: chars v ++ itemChars vs

/-- The members of an object after the first, and its end. -/
def memberChars : List (String × Json) → List Char
  | [] => ['\x7d']
  | (k, v) :: ms => ',' :: stringChars k ++ ':' :: chars v ++ memberChars ms

end

/-- The compact text of a value. -/
def text (v : Json) : String := String.ofList v.chars

end Json
end SchemaSdk
