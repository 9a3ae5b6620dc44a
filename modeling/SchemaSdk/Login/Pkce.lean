import SchemaSdk.Bytes.Base64Url
import SchemaSdk.Bytes.Sha256
import SchemaSdk.Bytes.Utf8
import SchemaSdk.Login.Error

/-!
# Proof of possession of a code

Whoever exchanges a code for tokens proves to be the one who asked for it: the request carries a
challenge, the digest of a verifier, and the exchange carries the verifier itself.
-/
namespace SchemaSdk.Login

open SchemaSdk.Bytes

/-- Whether a byte may stand in a verifier: one of a letter, a digit, or `-`, `.`, `_` or `~`. -/
def isUnreserved (b : UInt8) : Bool :=
  (0x41 ≤ b && b ≤ 0x5a) || (0x61 ≤ b && b ≤ 0x7a) || (0x30 ≤ b && b ≤ 0x39) ||
    [0x2d, 0x2e, 0x5f, 0x7e].contains b

/-- Whether a text is a verifier: 43 to 128 bytes, which all may stand in one. -/
def isVerifier (s : String) : Bool :=
  43 ≤ s.utf8ByteSize && s.utf8ByteSize ≤ 128 && (Utf8.encode s.toList).all isUnreserved

/-- The challenge for a text. -/
def challengeOf (verifier : String) : String :=
  String.ofList (Base64Url.encode (Sha256.digest (Utf8.encode verifier.toList)))

/-- The challenge for a verifier. -/
def challengeFor (verifier : String) : Except LoginError String :=
  if isVerifier verifier then .ok (challengeOf verifier) else .error .invalidVerifier

/-- How challenges are made from verifiers. -/
def challengeMethod : String := "S256"

/-- A verifier and its challenge. -/
structure ProofKey where
  verifier : String
  challenge : String
  deriving DecidableEq

namespace ProofKey

/-- The key with a given verifier. -/
def ofVerifier (verifier : String) : Except LoginError ProofKey :=
  match challengeFor verifier with
  | .error e => .error e
  | .ok challenge => .ok ⟨verifier, challenge⟩

/-- How many random bytes a new verifier is made of. -/
def randomBytes : Nat := 48

/-- How long a new verifier is. -/
def verifierLength : Nat := 64

/-- The key made from random bytes. -/
def ofRandom (random : List UInt8) : ProofKey :=
  let verifier := String.ofList (Base64Url.encode random)
  ⟨verifier, challengeOf verifier⟩

/-- The challenge that a request carries, which is made anew from the verifier. -/
def sentChallenge (k : ProofKey) : String := challengeOf k.verifier

end ProofKey
end SchemaSdk.Login
