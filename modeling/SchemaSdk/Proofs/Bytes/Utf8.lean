import SchemaSdk.Bytes.Utf8
import Mathlib.Data.List.Basic

/-!
# Characters read back from their bytes

The bytes of a text read as that text, whatever bytes follow them.
-/
namespace SchemaSdk.Bytes.Utf8

theorem toNat_ofNat {n : Nat} (h : n < 256) : (UInt8.ofNat n).toNat = n := by
  rw [UInt8.toNat_ofNat']
  omega

/-- A further byte adds its six bits, if it is in the range that is asked for. -/
theorem further_cons (n : Nat) {low high : UInt8} (bits : Nat) {x : Nat} (r : List UInt8)
    (hx : x < 64) (hlow : low.toNat ≤ x + 128) (hhigh : x + 128 ≤ high.toNat) :
    further (n + 1) low high bits (UInt8.ofNat (x + 128) :: r) =
      further n 0x80 0xbf (bits * 64 + x) r := by
  have hbyte : (UInt8.ofNat (x + 128)).toNat = x + 128 := toNat_ofNat (by omega)
  have hbits : (x + 128) % 64 = x := by omega
  rw [further, if_pos, hbyte, hbits]
  rw [UInt8.le_iff_toNat_le, UInt8.le_iff_toNat_le, hbyte]
  exact ⟨hlow, hhigh⟩

theorem next_one {v : Nat} (r : List UInt8) (hv : v < 128) :
    next (UInt8.ofNat v) r = (some v, r) := by
  have hb : (UInt8.ofNat v).toNat = v := toNat_ofNat (by omega)
  rw [next, if_pos, hb]
  rw [UInt8.lt_iff_toNat_lt, hb]
  exact hv

theorem next_two {x y : Nat} (r : List UInt8) (hx : 2 ≤ x) (hx' : x < 32) (hy : y < 64) :
    next (UInt8.ofNat (x + 192)) (UInt8.ofNat (y + 128) :: r) = (some (x * 64 + y), r) := by
  have hb : (UInt8.ofNat (x + 192)).toNat = x + 192 := toNat_ofNat (by omega)
  simp only [next, UInt8.lt_iff_toNat_lt, ← UInt8.toNat_inj, hb, UInt8.reduceToNat]
  rw [if_neg (by omega), if_neg (by omega), if_pos (by omega),
    further_cons 0 _ r hy (by simp) (by simp; omega), further]
  simp

theorem next_three {x y z : Nat} (r : List UInt8) (hx : x < 16) (hy : y < 64) (hz : z < 64)
    (hlow : x = 0 → 32 ≤ y) (hhigh : x = 13 → y < 32) :
    next (UInt8.ofNat (x + 224)) (UInt8.ofNat (y + 128) :: UInt8.ofNat (z + 128) :: r) =
      (some ((x * 64 + y) * 64 + z), r) := by
  have hb : (UInt8.ofNat (x + 224)).toNat = x + 224 := toNat_ofNat (by omega)
  have hlast : ∀ bits, further 1 0x80 0xbf bits (UInt8.ofNat (z + 128) :: r) =
      (some (bits * 64 + z), r) := by
    intro bits
    rw [further_cons 0 _ r hz (by simp) (by simp; omega), further]
  simp only [next, UInt8.lt_iff_toNat_lt, ← UInt8.toNat_inj, hb, UInt8.reduceToNat]
  rw [if_neg (by omega), if_neg (by omega), if_neg (by omega)]
  by_cases h0 : x = 0
  · rw [if_pos (by omega), further_cons 1 _ _ hy (by simp; omega) (by simp; omega), hlast]
    simp [h0]
  by_cases h13 : x = 13
  · rw [if_neg (by omega), if_pos (by omega),
      further_cons 1 _ _ hy (by simp) (by simp; omega), hlast]
    simp [h13]
  rw [if_neg (by omega), if_neg (by omega), if_pos (by omega),
    further_cons 1 _ _ hy (by simp) (by simp; omega), hlast]
  simp

theorem next_four {x y z t : Nat} (r : List UInt8) (hx : x < 5) (hy : y < 64) (hz : z < 64)
    (ht : t < 64) (hlow : x = 0 → 16 ≤ y) (hhigh : x = 4 → y < 16) :
    next (UInt8.ofNat (x + 240))
        (UInt8.ofNat (y + 128) :: UInt8.ofNat (z + 128) :: UInt8.ofNat (t + 128) :: r) =
      (some (((x * 64 + y) * 64 + z) * 64 + t), r) := by
  have hb : (UInt8.ofNat (x + 240)).toNat = x + 240 := toNat_ofNat (by omega)
  have hlast : ∀ bits, further 2 0x80 0xbf bits
      (UInt8.ofNat (z + 128) :: UInt8.ofNat (t + 128) :: r) =
        (some ((bits * 64 + z) * 64 + t), r) := by
    intro bits
    rw [further_cons 1 _ _ hz (by simp) (by simp; omega),
      further_cons 0 _ r ht (by simp) (by simp; omega), further]
  simp only [next, UInt8.lt_iff_toNat_lt, ← UInt8.toNat_inj, hb, UInt8.reduceToNat]
  rw [if_neg (by omega), if_neg (by omega), if_neg (by omega), if_neg (by omega),
    if_neg (by omega), if_neg (by omega)]
  by_cases h0 : x = 0
  · rw [if_pos (by omega), further_cons 2 _ _ hy (by simp; omega) (by simp; omega), hlast]
    simp [h0]
  by_cases h4 : x = 4
  · rw [if_neg (by omega), if_neg (by omega), if_pos (by omega),
      further_cons 2 _ _ hy (by simp) (by simp; omega), hlast]
    simp [h4]
  rw [if_neg (by omega), if_pos (by omega),
    further_cons 2 _ _ hy (by simp) (by simp; omega), hlast]
  simp

/-- The bytes of a character start with one that tells how the others are to be read. -/
theorem next_utf8EncodeChar (c : Char) (r : List UInt8) :
    ∃ b bs, String.utf8EncodeChar c = b :: bs ∧ next b (bs ++ r) = (some c.toNat, r) := by
  have hvalid : c.toNat < 0xd800 ∨ 0xdfff < c.toNat ∧ c.toNat < 0x110000 := c.valid
  rw [String.utf8EncodeChar, show c.val.toNat = c.toNat from rfl]
  by_cases h1 : c.toNat ≤ 127
  · simp only [h1, if_true]
    exact ⟨_, _, rfl, next_one r (by omega)⟩
  by_cases h2 : c.toNat ≤ 2047
  · simp only [h1, h2, if_true, if_false]
    refine ⟨_, _, rfl, ?_⟩
    rw [List.cons_append, List.nil_append, next_two r (by omega) (by omega) (by omega)]
    congr 2
    omega
  by_cases h3 : c.toNat ≤ 65535
  · simp only [h1, h2, h3, if_true, if_false]
    refine ⟨_, _, rfl, ?_⟩
    rw [List.cons_append, List.cons_append, List.nil_append,
      next_three r (by omega) (by omega) (by omega) (by omega) (by omega)]
    congr 2
    omega
  simp only [h1, h2, h3, if_false]
  refine ⟨_, _, rfl, ?_⟩
  rw [List.cons_append, List.cons_append, List.cons_append, List.nil_append,
    next_four r (by omega) (by omega) (by omega) (by omega) (by omega) (by omega)]
  congr 2
  omega

/-- **The bytes of a text read as the text**, followed by what the bytes after them read as. -/
theorem scan_encode_append (s : List Char) (r : List UInt8) :
    scan (encode s ++ r) = s.map some ++ scan r := by
  induction s with
  | nil => rfl
  | cons c s ih =>
    obtain ⟨b, bs, hchar, hnext⟩ := next_utf8EncodeChar c (encode s ++ r)
    have hbytes : encode (c :: s) ++ r = b :: (bs ++ (encode s ++ r)) := by
      simp [encode, hchar]
    rw [hbytes, scan, hnext, ih]
    simp [Char.ofNat_toNat]

theorem decode_encode (s : List Char) : decode (encode s) = s := by
  have hscan := scan_encode_append s []
  rw [List.append_nil, scan, List.append_nil] at hscan
  rw [decode, hscan, List.map_map]
  exact List.map_id s

end SchemaSdk.Bytes.Utf8
