import SchemaSdk.Bytes.Utf8
import SchemaSdk.Text.Digits

/-!
# Percent encoding

Characters as the bytes they consist of, each written as a percent sign and two digits. Which
characters are written so depends on the place; a percent sign without two digits stands for itself.
-/
namespace SchemaSdk.Web

open SchemaSdk.Bytes
open SchemaSdk.Text (hexDigit?)

/-- The upper case digit for four bits. -/
def upperDigit (n : Nat) : Char := (Nat.digitChar n).toUpper

/-- A byte as a percent sign and two digits. -/
def percentByte (b : UInt8) : List Char :=
  ['%', upperDigit (b.toNat / 16), upperDigit (b.toNat % 16)]

/-- A character, its bytes encoded if it is one of those to encode. -/
def percentChar (encoded : Char → Bool) (c : Char) : List Char :=
  if encoded c then (Utf8.encode [c]).flatMap percentByte else [c]

/-- A text with some of its characters encoded. -/
def percentEncode (encoded : Char → Bool) (s : List Char) : List Char :=
  s.flatMap (percentChar encoded)

/-- The bytes of a text without its percent signs. -/
def percentDecode : List Char → List UInt8
  | '%' :: a :: b :: r =>
    match hexDigit? a, hexDigit? b with
    | some x, some y => UInt8.ofNat (x * 16 + y) :: percentDecode r
    | _, _ => Utf8.encode ['%'] ++ percentDecode (a :: b :: r)
  | c :: r => Utf8.encode [c] ++ percentDecode r
  | [] => []

/-- Whether a character is a control character or beyond ASCII. -/
def isOutsideText (c : Char) : Bool := c.toNat < 0x20 || 0x7e < c.toNat

end SchemaSdk.Web
