/-!
# Punycode

Labels of host names beyond ASCII, written in ASCII: first the ASCII characters of the label, then
where the others belong among them, as numbers whose digits have weights that adapt to the numbers
before.
-/
namespace SchemaSdk.Web.Punycode

/-- The digit for a number below 36. -/
def digit (n : Nat) : Char :=
  if n < 26 then Char.ofNat ('a'.toNat + n) else Char.ofNat ('0'.toNat + (n - 26))

/-- What is left of a number when digits are cut off until it is small, and the position then. -/
def reduce (delta k : Nat) : Nat × Nat :=
  if 455 < delta then reduce (delta / 35) (k + 36) else (delta, k)
  termination_by delta
  decreasing_by omega

/-- The next bias, after a number that was the first one or not, with so many places now. -/
def adapt (delta places : Nat) (first : Bool) : Nat :=
  let delta := if first then delta / 700 else delta / 2
  let (delta, k) := reduce (delta + delta / places) 0
  k + 36 * delta / (delta + 38)

/-- The least digit that does not end a number at a position. -/
def threshold (k bias : Nat) : Nat :=
  if k ≤ bias then 1 else if bias + 26 ≤ k then 26 else k - bias

/-- A threshold is never zero, so that every digit takes something from a number. -/
theorem threshold_pos (k bias : Nat) : 0 < threshold k bias := by
  unfold threshold
  split
  · omega
  · split <;> omega

/-- What is left of a number after a digit is less. -/
theorem rest_lt {q t : Nat} (b : Nat) (ht : 0 < t) (h : ¬ q < t) : (q - t) / b < q :=
  Nat.lt_of_le_of_lt (Nat.div_le_self _ _) (by omega)

/-- The digits of a number, from the lowest. -/
def digits (bias q k : Nat) : List Char :=
  let t := threshold k bias
  if h : q < t then [digit q]
  else digit (t + (q - t) % (36 - t)) :: digits bias ((q - t) / (36 - t)) (k + 36)
  termination_by q
  decreasing_by exact rest_lt _ (threshold_pos k bias) h

/-- What the encoder has done so far. -/
structure Progress where
  delta : Nat
  bias : Nat
  handled : Nat
  output : List Char

/-- Goes on to a character of the label when characters of code point `n` are written. -/
def visit (basic n : Nat) (p : Progress) (c : Char) : Progress :=
  if c.toNat < n then { p with delta := p.delta + 1 }
  else if c.toNat = n then
    { delta := 0
      bias := adapt p.delta (p.handled + 1) (p.handled == basic)
      handled := p.handled + 1
      output := p.output ++ digits p.bias p.delta 36 }
  else p

/-- Writes the characters with the listed code points, which ascend from `n` on. -/
def go (label : List Char) (basic : Nat) : List Nat → Nat → Progress → Progress
  | [], _, p => p
  | m :: ms, n, p =>
    let p := { p with delta := p.delta + (m - n) * (p.handled + 1) }
    let p := label.foldl (visit basic m) p
    go label basic ms (m + 1) { p with delta := p.delta + 1 }

/-- The code points beyond ASCII of a label, ascending. -/
def extended (label : List Char) : List Nat :=
  (((label.map Char.toNat).filter (0x80 ≤ ·)).mergeSort (· ≤ ·)).eraseDups

/-- A label in ASCII, without the prefix that marks it. -/
def encode (label : List Char) : List Char :=
  let basic := label.filter (·.toNat < 0x80)
  let start := if basic.isEmpty then [] else basic ++ ['-']
  (go label basic.length (extended label) 0x80 ⟨0, 72, basic.length, start⟩).output

/-! ### Reading -/

/-- The number below 36 that a digit stands for. -/
def digitValue? (c : Char) : Option Nat :=
  if 'a' ≤ c ∧ c ≤ 'z' then some (c.toNat - 'a'.toNat)
  else if '0' ≤ c ∧ c ≤ '9' then some (c.toNat - '0'.toNat + 26)
  else none

/-- What the decoder has done so far: the code point and the place of the next character, the
number that is being read with the weight and the position of its next digit, and the label. -/
structure Reading where
  next : Nat
  place : Nat
  number : Nat
  weight : Nat
  position : Nat
  bias : Nat
  output : List Char

/-- Puts a character into the label when its number ends. -/
def Reading.insert? (r : Reading) (number : Nat) : Option Reading :=
  let places := r.output.length + 1
  let next := r.next + (r.place + number) / places
  let place := (r.place + number) % places
  if next.isValidChar then
    some {
      next := next
      place := place + 1
      number := 0
      weight := 1
      position := 36
      bias := adapt number places (r.output.all (·.toNat < 0x80))
      output := r.output.insertIdx place (Char.ofNat next) }
  else none

/-- Reads a digit. -/
def Reading.digit? (r : Reading) (c : Char) : Option Reading :=
  match digitValue? c with
  | none => none
  | some d =>
    let number := r.number + d * r.weight
    let t := threshold r.position r.bias
    if d < t then r.insert? number
    else some { r with
      number := number
      weight := r.weight * (36 - t)
      position := r.position + 36 }

/-- The label that is written in ASCII without the prefix that marks it. -/
def decode? (s : List Char) : Option (List Char) :=
  let tail := (s.reverse.takeWhile (· != '-')).reverse
  let basic := s.take (s.length - tail.length - 1)
  let ds := if basic.isEmpty then s else tail
  match ds.foldlM Reading.digit? ⟨0x80, 0, 0, 1, 36, 72, basic⟩ with
  | none => none
  | some r => if r.weight = 1 then some r.output else none

end SchemaSdk.Web.Punycode
