import SchemaSdk.Web.Percent

/-!
# Form encoding

Pairs of texts as one text: the pairs are joined by ampersands and their parts by equals signs, a
blank becomes a plus sign, and everything but letters, digits and a few signs is percent encoded.
-/
namespace SchemaSdk.Web.Form

open SchemaSdk.Bytes

/-- Whether a character stands for itself. -/
def isKept (c : Char) : Bool :=
  c.isAlphanum || c == '*' || c == '-' || c == '.' || c == '_'

/-- A character in a part of a pair. -/
def encodeChar (c : Char) : List Char :=
  if c = ' ' then ['+'] else percentChar (fun c => !isKept c) c

/-- A part of a pair. -/
def encodePart (s : String) : List Char := s.toList.flatMap encodeChar

/-- A pair. -/
def encodePair (p : String × String) : List Char := encodePart p.1 ++ '=' :: encodePart p.2

/-- Pairs. -/
def encode : List (String × String) → List Char
  | [] => []
  | [p] => encodePair p
  | p :: ps => encodePair p ++ '&' :: encode ps

/-- The text that a part of a pair stands for. -/
def decodePart (s : List Char) : String :=
  String.ofList (Utf8.decode (percentDecode (s.map fun c => if c = '+' then ' ' else c)))

/-- The pair that a text between ampersands stands for. What has no equals sign has an empty second
part. -/
def decodePair (s : List Char) : String × String :=
  (decodePart (s.takeWhile (· != '=')), decodePart ((s.dropWhile (· != '=')).drop 1))

/-- The pairs that a text stands for. -/
def decode (s : List Char) : List (String × String) :=
  ((s.splitOn '&').filter (!·.isEmpty)).map decodePair

end SchemaSdk.Web.Form
