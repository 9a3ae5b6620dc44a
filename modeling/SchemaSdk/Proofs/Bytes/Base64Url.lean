import SchemaSdk.Bytes.Base64Url
import SchemaSdk.Proofs.Bytes.Utf8
import SchemaSdk.Proofs.Text.Words

/-!
# Bytes read back from their Base64 text

The text of bytes consists of the characters of one alphabet, and its length is told by theirs. It
reads as the bytes, and it is the only text that does: reading refuses every other way to write
them, padded or with bits that no byte takes.
-/
namespace SchemaSdk.Bytes.Base64Url

/-- Whether a character is in the alphabet: a letter or a digit of ASCII, a hyphen or an
underscore. -/
def inAlphabet (c : Char) : Bool := c.isAlphanum || c == '-' || c == '_'

/-! ## Six bits -/

theorem inAlphabet_digit {n : Nat} (h : n < 64) : inAlphabet (digit n) = true := by
  revert n
  decide

theorem value?_digit {n : Nat} (h : n < 64) : value? (digit n) = some n := by
  revert n
  decide

theorem ascii_of_value? {c : Char} {n : Nat} (h : value? c = some n) : c.toNat < 0x80 := by
  unfold value? at h
  simp only [Char.le_def, UInt32.le_iff_toNat_le] at h
  split at h
  case isTrue hc => exact Nat.lt_of_le_of_lt hc.2 (by decide)
  split at h
  case isTrue hc => exact Nat.lt_of_le_of_lt hc.2 (by decide)
  split at h
  case isTrue hc => exact Nat.lt_of_le_of_lt hc.2 (by decide)
  split at h
  case isTrue hc => rw [hc]; decide
  split at h
  case isTrue hc => rw [hc]; decide
  cases h

/-- Only the digit for a number is read as the number. -/
theorem value?_eq_some_iff {c : Char} {n : Nat} : value? c = some n ↔ n < 64 ∧ c = digit n := by
  constructor
  · intro h
    have hread := Text.forall_ascii
      (P := fun c => ∀ n ∈ value? c, n < 64 ∧ c = digit n) (by decide) c (ascii_of_value? h)
    exact hread n h
  · rintro ⟨h, rfl⟩
    exact value?_digit h

/-- The alphabet is the one for URLs, without the sign that pads. -/
theorem notMem_of_inAlphabet {c : Char} (h : inAlphabet c = true) : c ∉ ['=', '+', '/'] := by
  simp only [List.mem_cons, List.not_mem_nil, or_false]
  rintro (rfl | rfl | rfl) <;> exact absurd h (by decide)

/-! ## The text of bytes -/

theorem inAlphabet_of_mem_encode {bs : List UInt8} {c : Char} (h : c ∈ encode bs) :
    inAlphabet c = true := by
  fun_induction encode bs with
  | case1 => cases h
  | case2 a =>
    have ha : a.toNat < 256 := a.toNat_lt
    simp only [List.mem_cons, List.not_mem_nil, or_false] at h
    rcases h with rfl | rfl <;> exact inAlphabet_digit (by omega)
  | case3 a b =>
    have ha : a.toNat < 256 := a.toNat_lt
    have hb : b.toNat < 256 := b.toNat_lt
    simp only [List.mem_cons, List.not_mem_nil, or_false] at h
    rcases h with rfl | rfl | rfl <;> exact inAlphabet_digit (by omega)
  | case4 a b d r ih =>
    have ha : a.toNat < 256 := a.toNat_lt
    have hb : b.toNat < 256 := b.toNat_lt
    have hd : d.toNat < 256 := d.toNat_lt
    simp only [List.mem_cons] at h
    rcases h with rfl | rfl | rfl | rfl | h
    on_goal 5 => exact ih h
    all_goals exact inAlphabet_digit (by omega)

/-- Four characters for three bytes, and no padding after one or two at the end. -/
theorem length_encode (bs : List UInt8) : (encode bs).length = (4 * bs.length + 2) / 3 := by
  fun_induction encode bs with
  | case1 => simp
  | case2 a => simp
  | case3 a b => simp
  | case4 a b c r ih =>
    simp only [List.length_cons, ih]
    omega

/-! ## Reading -/

theorem ofNat_eq {n : Nat} {b : UInt8} (h : n = b.toNat) : UInt8.ofNat n = b := by
  rw [h, UInt8.ofNat_toNat]

/-- **The text of bytes reads as the bytes.** -/
theorem decode?_encode (bs : List UInt8) : decode? (encode bs) = some bs := by
  fun_induction encode bs with
  | case1 => rfl
  | case2 a =>
    have ha : a.toNat < 256 := a.toNat_lt
    rw [decode?, value?_digit (by omega), value?_digit (by omega)]
    simp only [Option.bind_eq_bind, Option.bind_some]
    rw [if_pos (by omega), ofNat_eq (b := a) (by omega)]
  | case3 a b =>
    have ha : a.toNat < 256 := a.toNat_lt
    have hb : b.toNat < 256 := b.toNat_lt
    rw [decode?, value?_digit (by omega), value?_digit (by omega), value?_digit (by omega)]
    simp only [Option.bind_eq_bind, Option.bind_some]
    rw [if_pos (by omega), ofNat_eq (b := a) (by omega), ofNat_eq (b := b) (by omega)]
  | case4 a b c r ih =>
    have ha : a.toNat < 256 := a.toNat_lt
    have hb : b.toNat < 256 := b.toNat_lt
    have hc : c.toNat < 256 := c.toNat_lt
    rw [decode?, value?_digit (by omega), value?_digit (by omega), value?_digit (by omega),
      value?_digit (by omega), ih]
    simp only [Option.bind_eq_bind, Option.bind_some]
    rw [ofNat_eq (b := a) (by omega), ofNat_eq (b := b) (by omega), ofNat_eq (b := c) (by omega)]

/-- What reads as bytes is their text: bits that no byte takes are zero, so none are lost. -/
theorem eq_encode_of_decode? {s : List Char} {bs : List UInt8} (h : decode? s = some bs) :
    s = encode bs := by
  fun_induction decode? s generalizing bs with
  | case1 =>
    obtain rfl := Option.some.inj h
    rfl
  | case2 => cases h
  | case3 w x =>
    simp only [Option.bind_eq_bind, Option.bind_eq_some_iff, value?_eq_some_iff] at h
    obtain ⟨m, ⟨hm, rfl⟩, n, ⟨hn, rfl⟩, h⟩ := h
    split at h
    case isFalse => cases h
    obtain rfl := Option.some.inj h
    rw [encode, Utf8.toNat_ofNat (by omega)]
    congr 3 <;> omega
  | case4 w x y =>
    simp only [Option.bind_eq_bind, Option.bind_eq_some_iff, value?_eq_some_iff] at h
    obtain ⟨m, ⟨hm, rfl⟩, n, ⟨hn, rfl⟩, k, ⟨hk, rfl⟩, h⟩ := h
    split at h
    case isFalse => cases h
    obtain rfl := Option.some.inj h
    rw [encode, Utf8.toNat_ofNat (by omega), Utf8.toNat_ofNat (by omega)]
    congr 4 <;> omega
  | case5 w x y z r ih =>
    simp only [Option.bind_eq_bind, Option.bind_eq_some_iff, value?_eq_some_iff] at h
    obtain ⟨m, ⟨hm, rfl⟩, n, ⟨hn, rfl⟩, k, ⟨hk, rfl⟩, l, ⟨hl, rfl⟩, rest, hrest, h⟩ := h
    obtain rfl := Option.some.inj h
    rw [ih hrest, encode, Utf8.toNat_ofNat (by omega), Utf8.toNat_ofNat (by omega),
      Utf8.toNat_ofNat (by omega)]
    congr 5 <;> omega

/-- **Bytes have one text.** -/
theorem decode?_eq_some_iff {s : List Char} {bs : List UInt8} :
    decode? s = some bs ↔ s = encode bs := by
  constructor
  · exact eq_encode_of_decode?
  · rintro rfl
    exact decode?_encode bs

end SchemaSdk.Bytes.Base64Url
