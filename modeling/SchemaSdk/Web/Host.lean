import SchemaSdk.Text.LetterCase
import SchemaSdk.Web.Percent
import SchemaSdk.Web.Punycode

/-!
# Hosts

The host of a URL: a name, or an address of version 4 or 6. Names are in lower case and ASCII. A
name whose last part is a number has to be an address, of one to four numbers in base ten, eight or
sixteen.
-/
namespace SchemaSdk.Web

open SchemaSdk.Bytes
open SchemaSdk.Text (hexDigit? hexValue? numberIn?)

/-- Why a text is no URL. -/
inductive UrlError where
  | relative
  | emptyHost
  | badPort
  | badIpv4
  | badIpv6
  | badInternationalName
  | badHostCharacter
  | noBase
  deriving DecidableEq

/-- The message for an error. -/
def UrlError.message : UrlError → String
  | relative => "relative URL without a base"
  | emptyHost => "empty host"
  | badPort => "invalid port number"
  | badIpv4 => "invalid IPv4 address"
  | badIpv6 => "invalid IPv6 address"
  | badInternationalName => "invalid international domain name"
  | badHostCharacter => "invalid domain character"
  | noBase => "relative URL with a cannot-be-a-base base"

/-- The host of a URL. An address of version 6 is the list of its eight pieces. -/
inductive Host where
  | name (s : List Char)
  | ipv4 (address : Nat)
  | ipv6 (pieces : List Nat)
  deriving DecidableEq

namespace Host

/-- A part of an address of version 4; leading zeros make it octal, and nothing after `0x` is
zero. -/
def ipv4Part? : List Char → Option Nat
  | [] => none
  | '0' :: 'x' :: ds => numberIn? 16 ds
  | '0' :: 'X' :: ds => numberIn? 16 ds
  | '0' :: d :: ds => numberIn? 8 (d :: ds)
  | ds => numberIn? 10 ds

/-- The parts of a name; a point at its end ends no part. -/
def partsOf (s : List Char) : List (List Char) :=
  let parts := s.splitOn '.'
  if 1 < parts.length && parts.getLast? == some [] then parts.dropLast else parts

/-- Whether the last part of a name is a number. -/
def endsInNumber (s : List Char) : Bool :=
  match (partsOf s).getLast? with
  | none => false
  | some last => (!last.isEmpty && last.all Char.isDigit) || (ipv4Part? last).isSome

/-- The address that one to four numbers make, the last one filling the rest. -/
def ipv4Address? (numbers : List Nat) : Option Nat :=
  match numbers.getLast? with
  | none => none
  | some last =>
    let before := numbers.dropLast
    if 3 < before.length || before.any (255 < ·) || 1 <<< (8 * (4 - before.length)) ≤ last then none
    else some (before.zipIdx.foldl (fun a (n, i) => a + n <<< (8 * (3 - i))) last)

/-- An address of version 4. -/
def parseIpv4? (s : List Char) : Option Nat :=
  ((partsOf s).mapM ipv4Part?).bind ipv4Address?

/-- A number of an address of version 4 at the end of one of version 6. -/
def decimalByte? (s : List Char) : Option Nat :=
  if s.isEmpty || (1 < s.length && s.head? == some '0') then none
  else (numberIn? 10 s).bind fun n => if n ≤ 255 then some n else none

/-- One piece of an address of version 6, or the two that an address of version 4 makes. -/
def ipv6Piece? (s : List Char) : Option (List Nat) :=
  if s.contains '.' then
    match (s.splitOn '.').mapM decimalByte? with
    | some [a, b, c, d] => some [a * 256 + b, c * 256 + d]
    | _ => none
  else if s.isEmpty || 4 < s.length then none
  else (hexValue? s).map ([·])

/-- Pieces with colons between them. -/
def ipv6Pieces? (s : List Char) : Option (List Nat) :=
  if s.isEmpty then some []
  else
    let parts := s.splitOn ':'
    if parts.dropLast.any (·.contains '.') then none
    else (parts.mapM ipv6Piece?).map List.flatten

/-- What stands before and after the first two colons in a row. -/
def splitGap : List Char → Option (List Char × List Char)
  | ':' :: ':' :: r => some ([], r)
  | c :: r => (splitGap r).map fun (before, after) => (c :: before, after)
  | [] => none

/-- An address of version 6. Two colons in a row stand for at least one piece of zero. -/
def parseIpv6? (s : List Char) : Option (List Nat) :=
  match splitGap s with
  | none => (ipv6Pieces? s).bind fun ps => if !s.isEmpty && ps.length = 8 then some ps else none
  | some (before, after) =>
    if before.contains '.' then none
    else
      match ipv6Pieces? before, ipv6Pieces? after with
      | some xs, some ys =>
        if xs.length + ys.length ≤ 7 then
          some (xs ++ List.replicate (8 - xs.length - ys.length) 0 ++ ys)
        else none
      | _, _ => none

/-- Whether a character may not stand in a name: those that are separators of URLs or no text. -/
def isForbidden (c : Char) : Bool :=
  c.toNat ≤ 0x20 || (0x7f ≤ c.toNat && c.toNat < 0xa0) ||
    ['%', '#', '/', ':', '<', '>', '?', '@', '[', '\\', ']', '^', '|'].contains c

/-- Whether a character ends a label of a name. -/
def isLabelEnd (c : Char) : Bool :=
  c == '.' || c == '\u3002' || c == '\uff0e' || c == '\uff61'

/-- The code points of characters that are left out of names. -/
def ignored : List (Nat × Nat) := [
  (0xad, 0xad), (0x34f, 0x34f), (0x180b, 0x180d), (0x180f, 0x180f), (0x200b, 0x200b),
  (0x2060, 0x2060), (0x2064, 0x2064), (0xfe00, 0xfe0f), (0xfeff, 0xfeff), (0x1bca0, 0x1bca3),
  (0xe0100, 0xe01ef)]

/-- The character that a full-width character of ASCII stands for; any other stands for itself. -/
def narrow (c : Char) : Char :=
  if '\uff01' ≤ c ∧ c ≤ '\uff5e' then Char.ofNat (c.toNat - 0xfee0) else c

/-- How a character is written in a name. -/
def nameChars (c : Char) : List Char :=
  if isLabelEnd c then ['.']
  else if Text.inRanges ignored c.toNat then []
  else Text.lowercase (narrow c)

/-- What marks a label that is written in ASCII, but has other characters. -/
def labelMark : List Char := ['x', 'n', '-', '-']

/-- Whether a label is what its characters are written as, with one beyond ASCII among them. -/
def isProperLabel (label : List Char) : Bool :=
  label.any (0x80 ≤ ·.toNat) && label.flatMap nameChars == label && !label.any isForbidden

/-- A label of a name in ASCII. One that is marked has to be a proper label. -/
def asciiLabel? (label : List Char) : Option (List Char) :=
  if labelMark.isPrefixOf label then
    if (Punycode.decode? (label.drop labelMark.length)).any isProperLabel then some label else none
  else if label.all (·.toNat < 0x80) then some label
  else some (labelMark ++ Punycode.encode label)

/-- A name in lower case and ASCII. -/
def asciiName? (s : List Char) : Option (List Char) :=
  let written := s.flatMap nameChars
  if written.any isForbidden then none
  else ((written.splitOn '.').mapM asciiLabel?).map ['.'].intercalate

/-- The host of a URL whose scheme has addresses. -/
def parse (s : List Char) : Except UrlError Host :=
  match s with
  | '[' :: r =>
    if r.getLast? == some ']' then
      match parseIpv6? r.dropLast with
      | some ps => .ok (.ipv6 ps)
      | none => .error .badIpv6
    else .error .badIpv6
  | s =>
    match (Utf8.decode? (percentDecode s)).bind asciiName? with
    | none => .error .badInternationalName
    | some ascii =>
      if ascii.isEmpty then .error .emptyHost
      else if endsInNumber ascii then
        match parseIpv4? ascii with
        | some address => .ok (.ipv4 address)
        | none => .error .badIpv4
      else .ok (.name ascii)

/-- Whether a character may not stand in a host without a known form. -/
def isForbiddenAnywhere (c : Char) : Bool :=
  ['\x00', '\t', '\n', '\r', ' ', '#', '/', ':', '<', '>', '?', '@', '[', '\\', ']', '^',
    '|'].contains c

/-- The host of a URL with any other scheme, which stays as it is written. -/
def parsePlain (s : List Char) : Except UrlError Host :=
  match s with
  | '[' :: r =>
    if r.getLast? == some ']' then
      match parseIpv6? r.dropLast with
      | some ps => .ok (.ipv6 ps)
      | none => .error .badIpv6
    else .error .badIpv6
  | s =>
    if s.any isForbiddenAnywhere then .error .badHostCharacter
    else .ok (.name (percentEncode isOutsideText s))

/-- How many zeros a list starts with. -/
def zeros : List Nat → Nat
  | 0 :: r => zeros r + 1
  | _ => 0

/-- The length of the longest run of zeros. -/
def longestRun : List Nat → Nat
  | [] => 0
  | n :: r => max (zeros (n :: r)) (longestRun r)

/-- Pieces with colons between them. -/
def piecesText (ps : List Nat) : List Char := [':'].intercalate (ps.map (Nat.toDigits 16))

/-- Pieces with the first run of so many zeros left out. -/
def compressed (run : Nat) : List Nat → List Nat → List Char
  | before, [] => piecesText before
  | before, n :: r =>
    if zeros (n :: r) = run then
      piecesText before ++ [':', ':'] ++ piecesText ((n :: r).drop run)
    else compressed run (before ++ [n]) r

/-- The text of a host. -/
def text : Host → List Char
  | name s => s
  | ipv4 a =>
    ['.'].intercalate ([a >>> 24, (a >>> 16) % 256, (a >>> 8) % 256, a % 256].map
      (Nat.toDigits 10))
  | ipv6 ps =>
    let run := longestRun ps
    '[' :: (if run < 2 then piecesText ps else compressed run [] ps) ++ [']']

end Host
end SchemaSdk.Web
