import Mathlib.Data.List.Basic
import SchemaSdk.Proofs.Bytes.Utf8
import SchemaSdk.Web.Url

/-!
# Pairs read back from a query

Form encoding loses nothing: what is written for a list of pairs reads as these pairs, and pairs
that are added to a query stand after those that it had.
-/
namespace SchemaSdk.Web

open SchemaSdk.Bytes SchemaSdk.Text

/-! ## Percent encoding -/

theorem hexDigit?_upperDigit {n : Nat} (h : n < 16) : hexDigit? (upperDigit n) = some n := by
  revert n
  decide

theorem isAlphanum_upperDigit {n : Nat} (h : n < 16) : (upperDigit n).isAlphanum = true := by
  revert n
  decide

theorem percentDecode_percentByte (b : UInt8) (r : List Char) :
    percentDecode (percentByte b ++ r) = b :: percentDecode r := by
  have hb : b.toNat < 256 := b.toNat_lt
  have hvalue : b.toNat / 16 * 16 + b.toNat % 16 = b.toNat := by omega
  simp only [percentByte, List.cons_append, List.nil_append]
  rw [percentDecode, hexDigit?_upperDigit (by omega), hexDigit?_upperDigit (by omega)]
  dsimp only
  rw [hvalue, UInt8.ofNat_toNat]

theorem percentDecode_flatMap_percentByte (bs : List UInt8) (r : List Char) :
    percentDecode (bs.flatMap percentByte ++ r) = bs ++ percentDecode r := by
  induction bs with
  | nil => rfl
  | cons b bs ih =>
    rw [List.flatMap_cons, List.append_assoc, percentDecode_percentByte, ih, List.cons_append]

theorem percentDecode_cons_of_ne {c : Char} (h : c ≠ '%') (r : List Char) :
    percentDecode (c :: r) = Utf8.encode [c] ++ percentDecode r := by
  rw [percentDecode]
  intro a b r' hc
  exact absurd hc h

namespace Form

/-! ## Parts of a pair -/

/-- A blank for a plus sign, and any other character for itself. -/
def unplus (c : Char) : Char := if c = '+' then ' ' else c

/-- A character that may stand in an encoded part: neither a blank nor a separator. -/
def isPartChar (c : Char) : Bool := c.isAlphanum || ['*', '-', '.', '_', '+', '%'].contains c

theorem mem_percentByte {b : UInt8} {c : Char} (h : c ∈ percentByte b) :
    c = '%' ∨ c.isAlphanum = true := by
  have hb : b.toNat < 256 := b.toNat_lt
  simp only [percentByte, List.mem_cons, List.not_mem_nil, or_false] at h
  rcases h with rfl | rfl | rfl
  · exact Or.inl rfl
  · exact Or.inr (isAlphanum_upperDigit (by omega))
  · exact Or.inr (isAlphanum_upperDigit (by omega))

theorem isPartChar_of_mem_encodeChar {c d : Char} (h : d ∈ encodeChar c) :
    isPartChar d = true := by
  unfold encodeChar percentChar at h
  split at h
  · rw [List.mem_singleton.mp h]
    decide
  split at h
  · obtain ⟨b, _, hd⟩ := List.mem_flatMap.mp h
    rcases mem_percentByte hd with rfl | hd
    · decide
    · simp [isPartChar, hd]
  case isFalse hkept =>
    rw [List.mem_singleton.mp h]
    simp only [isKept, Bool.not_eq_true, Bool.not_eq_false', Bool.or_eq_true, beq_iff_eq] at hkept
    simp only [isPartChar, Bool.or_eq_true, List.contains_eq_mem, List.mem_cons, decide_eq_true_eq]
    tauto

theorem unplus_of_ne {c : Char} (h : c ≠ '+') : unplus c = c := if_neg h

/-- An encoded character reads as its bytes. -/
theorem percentDecode_encodeChar (c : Char) (r : List Char) :
    percentDecode ((encodeChar c).map unplus ++ r) = Utf8.encode [c] ++ percentDecode r := by
  unfold encodeChar
  split
  case isTrue hblank =>
    rw [hblank]
    exact percentDecode_cons_of_ne (by decide) r
  unfold percentChar
  split
  · have hplus : ∀ d ∈ (Utf8.encode [c]).flatMap percentByte, unplus d = d := by
      intro d hd
      obtain ⟨b, _, hd⟩ := List.mem_flatMap.mp hd
      refine unplus_of_ne ?_
      rintro rfl
      rcases mem_percentByte hd with h | h
      · exact absurd h (by decide)
      · exact absurd h (by decide)
    rw [List.map_congr_left hplus, List.map_id', percentDecode_flatMap_percentByte]
  case isFalse hkept =>
    have hplus : c ≠ '+' := by
      rintro rfl
      exact hkept (by decide)
    have hpercent : c ≠ '%' := by
      rintro rfl
      exact hkept (by decide)
    rw [List.map_singleton, unplus_of_ne hplus]
    exact percentDecode_cons_of_ne hpercent r

theorem percentDecode_encodePart (s : List Char) :
    percentDecode ((s.flatMap encodeChar).map unplus) = Utf8.encode s := by
  induction s with
  | nil => rfl
  | cons c s ih =>
    rw [List.flatMap_cons, List.map_append, percentDecode_encodeChar, ih]
    simp [Utf8.encode]

theorem decodePart_encodePart (s : String) : decodePart (encodePart s) = s := by
  have h : percentDecode ((encodePart s).map unplus) = Utf8.encode s.toList :=
    percentDecode_encodePart s.toList
  rw [decodePart, show (fun c => if c = '+' then ' ' else c) = unplus from rfl, h,
    Utf8.decode_encode, String.ofList_toList]

theorem not_mem_encodePart {s : String} {c : Char} (h : isPartChar c = false) :
    c ∉ encodePart s := by
  intro hmem
  obtain ⟨d, _, hc⟩ := List.mem_flatMap.mp hmem
  rw [isPartChar_of_mem_encodeChar hc] at h
  cases h

/-! ## Pairs -/

theorem decodePair_encodePair (p : String × String) : decodePair (encodePair p) = p := by
  have hkey : ∀ c ∈ encodePart p.1, (c != '=') = true := by
    intro c hc
    rw [bne_iff_ne]
    rintro rfl
    exact not_mem_encodePart (by decide) hc
  rw [decodePair, encodePair, List.takeWhile_append_of_pos hkey, List.dropWhile_append_of_pos hkey]
  simp [decodePart_encodePart]

theorem not_mem_encodePair (p : String × String) : '&' ∉ encodePair p := by
  rw [encodePair, List.mem_append, List.mem_cons]
  rintro (h | h | h)
  · exact not_mem_encodePart (by decide) h
  · exact absurd h (by decide)
  · exact not_mem_encodePart (by decide) h

/-- Around an ampersand stand pairs that have nothing to do with each other. -/
theorem decode_append_cons (q r : List Char) : decode (q ++ '&' :: r) = decode q ++ decode r := by
  rw [decode, List.splitOn_append_cons_self, List.filter_append, List.map_append]
  rfl

theorem decode_encodePair (p : String × String) : decode (encodePair p) = [p] := by
  have hne : encodePair p ≠ [] := by simp [encodePair]
  rw [decode, List.splitOn_eq_singleton (not_mem_encodePair p)]
  simp [hne, decodePair_encodePair]

/-- **What is written for pairs reads as the pairs.** -/
theorem decode_encode (ps : List (String × String)) : decode (encode ps) = ps := by
  fun_induction encode ps with
  | case1 => rfl
  | case2 p => exact decode_encodePair p
  | case3 p ps hps ih => rw [decode_append_cons, decode_encodePair, ih, List.singleton_append]

end Form

/-- Added pairs stand after those that a URL has. -/
theorem Url.queryPairs_addPairs (u : Url) (pairs : List (String × String)) :
    (u.addPairs pairs).queryPairs = u.queryPairs ++ pairs := by
  unfold queryPairs addPairs
  dsimp only [Option.getD_some]
  split
  case h_1 hquery => rw [hquery, Form.decode_encode]; rfl
  case h_2 hquery => rw [hquery, Form.decode_encode]; rfl
  case h_3 q _ hquery => rw [hquery, Form.decode_append_cons, Form.decode_encode]; rfl

end SchemaSdk.Web
