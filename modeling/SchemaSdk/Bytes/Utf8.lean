/-!
# UTF-8

Characters as bytes and bytes as characters. Bytes that are no character read as a replacement
character: one for each longest start of a character, or for the byte if it starts none.
-/
namespace SchemaSdk.Bytes.Utf8

/-- The bytes of characters. -/
def encode (s : List Char) : List UInt8 := s.flatMap String.utf8EncodeChar

/-- Adds the bits of so many further bytes of a character, the first of which is in a range. Gives
nothing if there are fewer, and what follows the bytes that fit. -/
def further : Nat → UInt8 → UInt8 → Nat → List UInt8 → Option Nat × List UInt8
  | 0, _, _, bits, r => (some bits, r)
  | _ + 1, _, _, _, [] => (none, [])
  | n + 1, low, high, bits, b :: r =>
    if low ≤ b ∧ b ≤ high then further n 0x80 0xbf (bits * 64 + b.toNat % 64) r
    else (none, b :: r)

theorem length_further_le (n : Nat) (low high : UInt8) (bits : Nat) (r : List UInt8) :
    (further n low high bits r).2.length ≤ r.length := by
  induction r generalizing n low high bits with
  | nil => cases n <;> simp [further]
  | cons b r ih =>
    cases n with
    | zero => simp [further]
    | succ n =>
      rw [further]
      split
      · exact Nat.le_succ_of_le (ih ..)
      · exact Nat.le_refl _

/-- The code point that starts with a byte, if there is one, and what follows it. -/
def next (b : UInt8) (r : List UInt8) : Option Nat × List UInt8 :=
  if b < 0x80 then (some b.toNat, r)
  else if b < 0xc2 then (none, r)
  else if b < 0xe0 then further 1 0x80 0xbf (b.toNat - 0xc0) r
  else if b = 0xe0 then further 2 0xa0 0xbf 0 r
  else if b = 0xed then further 2 0x80 0x9f 0xd r
  else if b < 0xf0 then further 2 0x80 0xbf (b.toNat - 0xe0) r
  else if b = 0xf0 then further 3 0x90 0xbf 0 r
  else if b < 0xf4 then further 3 0x80 0xbf (b.toNat - 0xf0) r
  else if b = 0xf4 then further 3 0x80 0x8f 4 r
  else (none, r)

theorem length_next_le (b : UInt8) (r : List UInt8) : (next b r).2.length ≤ r.length := by
  simp only [next]
  repeat' split
  all_goals simp [length_further_le]

/-- The character for bytes that are none. -/
def replacement : Char := '\ufffd'

/-- The characters of bytes, with nothing for bytes that are none. -/
def scan (bytes : List UInt8) : List (Option Char) :=
  match bytes with
  | [] => []
  | b :: r => (next b r).1.map Char.ofNat :: scan (next b r).2
termination_by bytes.length
decreasing_by
  have := length_next_le b r
  simp only [List.length_cons]
  omega

/-- The characters of bytes, replacements included. -/
def decode (bytes : List UInt8) : List Char := (scan bytes).map (·.getD replacement)

/-- The characters up to the first bytes that are none. -/
def decodeStart (bytes : List UInt8) : List Char :=
  ((scan bytes).takeWhile Option.isSome).filterMap id

/-- The characters of bytes that all are characters. -/
def decode? (bytes : List UInt8) : Option (List Char) := (scan bytes).mapM id

end SchemaSdk.Bytes.Utf8
