import SchemaSdk.Proofs.Web.Marks

/-!
# Paths read back

Reading a path cuts it at its separators, goes up where there are dots, and encodes what is left.
The segments that come out are settled: they have no separators and nothing to encode, and encoding
has made dots of none of them. So the text of a path that was read reads as that path, and a path
that is joined to it stands behind all of its segments but the last.
-/
namespace SchemaSdk.Web

open SchemaSdk.Bytes

/-! ## Encoded texts -/

section Encoding

variable {encoded : Char → Bool} {c x : Char} {s t : List Char}

theorem percentEncode_cons_of_plain (h : encoded c = false) (s : List Char) :
    percentEncode encoded (c :: s) = c :: percentEncode encoded s := by
  simp [percentEncode, percentChar, h]

/-- A character that is encoded starts with a byte, which is that of the dot for the dot alone. -/
theorem exists_encode_eq_cons (c : Char) :
    ∃ b bs, Utf8.encode [c] = b :: bs ∧ (b = 0x2e → c = '.') := by
  have hdecode := Utf8.decode_encode [c]
  cases hbytes : Utf8.encode [c] with
  | nil =>
    rw [hbytes, Utf8.decode, Utf8.scan] at hdecode
    cases hdecode
  | cons b bs =>
    refine ⟨b, bs, rfl, fun hb => ?_⟩
    rw [hbytes, hb, Utf8.decode, Utf8.scan, List.map_cons] at hdecode
    exact (List.cons.inj hdecode).1.symm

/-- What is written for an encoded character does not start like an encoded dot. -/
theorem exists_percentEncode_cons (h : encoded c = true) (hdot : c ≠ '.') (s : List Char) :
    ∃ x y r, percentEncode encoded (c :: s) = '%' :: x :: y :: r ∧
      ¬ (x = '2' ∧ (y = 'e' ∨ y = 'E')) := by
  obtain ⟨b, bs, hbytes, hb⟩ := exists_encode_eq_cons c
  refine ⟨upperDigit (b.toNat / 16), upperDigit (b.toNat % 16),
    bs.flatMap percentByte ++ percentEncode encoded s, ?_, ?_⟩
  · simp [percentEncode, percentChar, h, hbytes, percentByte]
  · rintro ⟨hhigh, hlow⟩
    have hhighs : ∀ n < 16, upperDigit n = '2' → n = 2 := by decide
    have hlows : ∀ n < 16, upperDigit n = 'e' ∨ upperDigit n = 'E' → n = 14 := by decide
    have hlt : b.toNat < 256 := b.toNat_lt
    have hdiv := hhighs _ (by omega) hhigh
    have hmod := hlows _ (by omega) hlow
    exact hdot (hb (UInt8.toNat_inj.mp (by simp; omega)))

/-- A text that starts with something else than a percent sign after encoding starts so before. -/
theorem exists_of_percentEncode_eq_cons (h : percentEncode encoded s = x :: t) (hx : x ≠ '%') :
    ∃ r, s = x :: r ∧ t = percentEncode encoded r := by
  cases s with
  | nil => cases h
  | cons c r =>
    cases hc : encoded c with
    | true =>
      obtain ⟨b, bs, hbytes, -⟩ := exists_encode_eq_cons c
      simp only [percentEncode, List.flatMap_cons, percentChar, hc, if_true, hbytes, percentByte,
        List.cons_append, List.cons.injEq] at h
      exact absurd h.1.symm hx
    | false =>
      rw [percentEncode_cons_of_plain hc] at h
      obtain ⟨rfl, rfl⟩ := List.cons.inj h
      exact ⟨r, rfl, rfl⟩

end Encoding

namespace Url

variable {scheme s : List Char} {before parts : List (List Char)} {u : Url} {text : String}

/-! ## Dots -/

/-- A dot that is encoded as such reads as a dot, and any other character as itself. -/
theorem plainDots_cons (c : Char) (r : List Char) : plainDots (c :: r) = c :: plainDots r ∨
    c = '%' ∧ ∃ y r', r = '2' :: y :: r' ∧ (y = 'e' ∨ y = 'E') := by
  by_cases hdot : c = '%' ∧ ∃ y r', r = '2' :: y :: r' ∧ (y = 'e' ∨ y = 'E')
  · exact .inr hdot
  · left
    rw [plainDots]
    · rintro r' rfl rfl
      exact hdot ⟨rfl, 'e', r', rfl, .inl rfl⟩
    · rintro r' rfl rfl
      exact hdot ⟨rfl, 'E', r', rfl, .inr rfl⟩

/-- An encoded dot is written as it is. -/
theorem percentEncode_encodedDot {y : Char} (hy : y = 'e' ∨ y = 'E') (r : List Char) :
    percentEncode encodedInPath ('%' :: '2' :: y :: r) =
      '%' :: '2' :: y :: percentEncode encodedInPath r := by
  have hplain : encodedInPath y = false := by rcases hy with rfl | rfl <;> decide
  rw [percentEncode_cons_of_plain (by decide), percentEncode_cons_of_plain (by decide),
    percentEncode_cons_of_plain hplain]

/-- An encoded character leaves a percent sign, which reads as no dot. -/
theorem exists_plainDots_percentEncode {c : Char} (hc : encodedInPath c = true) (r : List Char) :
    ∃ t, plainDots (percentEncode encodedInPath (c :: r)) = '%' :: t := by
  have hdot : c ≠ '.' := by
    rintro rfl
    exact absurd hc (by decide)
  obtain ⟨x, y, t, heq, hxy⟩ := exists_percentEncode_cons hc hdot r
  rw [heq]
  rcases plainDots_cons '%' (x :: y :: t) with hplain | ⟨-, y', t', htail, hy⟩
  · exact ⟨_, hplain⟩
  · obtain ⟨rfl, hrest⟩ := List.cons.inj htail
    obtain ⟨rfl, rfl⟩ := List.cons.inj hrest
    exact absurd ⟨rfl, hy⟩ hxy

/-- A character that is written as it is reads as itself if it starts no encoded dot. -/
theorem plainDots_percentEncode_cons {c : Char} {r : List Char} (hc : encodedInPath c = false)
    (hdot : ∀ y r', y = 'e' ∨ y = 'E' → c = '%' → r ≠ '2' :: y :: r') :
    plainDots (percentEncode encodedInPath (c :: r)) =
      c :: plainDots (percentEncode encodedInPath r) := by
  rw [percentEncode_cons_of_plain hc]
  rcases plainDots_cons c (percentEncode encodedInPath r) with hplain | ⟨hpercent, y, t, htail, hy⟩
  · exact hplain
  · -- Neither of its digits was written for another character, so the dot was encoded before.
    have hy' : y ≠ '%' := by rcases hy with rfl | rfl <;> decide
    obtain ⟨r, rfl, hrest⟩ := exists_of_percentEncode_eq_cons htail (by decide)
    obtain ⟨r, rfl, -⟩ := exists_of_percentEncode_eq_cons hrest.symm hy'
    exact absurd rfl (hdot y r hy hpercent)

/-- Encoding makes no dots: what reads as dots afterwards was not changed by it. -/
theorem percentEncode_eq_self_of_dots
    (h : ∀ c ∈ plainDots (percentEncode encodedInPath s), c = '.') :
    percentEncode encodedInPath s = s := by
  fun_induction plainDots s with
  | case1 r ih =>
    rw [percentEncode_encodedDot (.inl rfl)] at h ⊢
    rw [ih (List.forall_mem_cons.mp h).2]
  | case2 r ih =>
    rw [percentEncode_encodedDot (.inr rfl)] at h ⊢
    rw [ih (List.forall_mem_cons.mp h).2]
  | case3 c r hlower hupper ih =>
    cases hc : encodedInPath c with
    | true =>
      obtain ⟨t, ht⟩ := exists_plainDots_percentEncode hc r
      rw [ht] at h
      exact absurd (List.forall_mem_cons.mp h).1 (by decide)
    | false =>
      have hdot : ∀ y r', y = 'e' ∨ y = 'E' → c = '%' → r ≠ '2' :: y :: r' := by
        rintro y r' (rfl | rfl) hpercent hr
        · exact hlower r' hpercent hr
        · exact hupper r' hpercent hr
      rw [plainDots_percentEncode_cons hc hdot] at h
      rw [percentEncode_cons_of_plain hc, ih (List.forall_mem_cons.mp h).2]
  | case4 => rfl

/-! ## Settled segments -/

theorem encodedInPath_of_isAlphanum {c : Char} (h : c.isAlphanum = true) :
    encodedInPath c = false :=
  of_isAlphanum (P := (encodedInPath · = false)) (by decide) h

theorem isSeparator_of_isAlphanum {special : Bool} {c : Char} (h : c.isAlphanum = true) :
    isSeparator special c = false := by
  have hslash : c ≠ '/' := by
    rintro rfl
    exact absurd h (by decide)
  have hbackslash : c ≠ '\\' := by
    rintro rfl
    exact absurd h (by decide)
  simp [isSeparator, hslash, hbackslash]

/-- A segment that reading leaves as it is: it has nothing to encode and no separator, and it is
neither one dot nor two. -/
structure Settled (scheme s : List Char) : Prop where
  plain : ∀ c ∈ s, encodedInPath c = false
  whole : ∀ c ∈ s, isSeparator (isSpecial scheme) c = false
  ne_dot : plainDots s ≠ ['.']
  ne_dots : plainDots s ≠ ['.', '.']

theorem settled_nil (scheme : List Char) : Settled scheme [] where
  plain := List.forall_mem_nil _
  whole := List.forall_mem_nil _
  ne_dot := by decide
  ne_dots := by decide

/-- What is written for a segment that is no dots is settled. -/
theorem settled_percentEncode (hwhole : ∀ c ∈ s, isSeparator (isSpecial scheme) c = false)
    (hdot : plainDots s ≠ ['.']) (hdots : plainDots s ≠ ['.', '.']) :
    Settled scheme (percentEncode encodedInPath s) where
  plain c hc := by
    rcases of_mem_percentEncode hc with rfl | hc | ⟨-, hc⟩
    · decide
    · exact encodedInPath_of_isAlphanum hc
    · exact hc
  whole c hc := by
    rcases of_mem_percentEncode hc with rfl | hc | ⟨hc, -⟩
    · simp [isSeparator]
    · exact isSeparator_of_isAlphanum hc
    · exact hwhole c hc
  ne_dot h := by
    have hself := percentEncode_eq_self_of_dots (s := s) (by simp [h])
    exact hdot (hself ▸ h)
  ne_dots h := by
    have hself := percentEncode_eq_self_of_dots (s := s) (by simp [h])
    exact hdots (hself ▸ h)

/-! ## Following segments -/

theorem forall_mem_splitOnP {p : Char → Bool} {s : List Char} :
    ∀ part ∈ s.splitOnP p, ∀ c ∈ part, p c = false := by
  induction s with
  | nil => simp
  | cons d s ih =>
    rw [List.splitOnP_cons_eq_if_modifyHead]
    split
    · exact List.forall_mem_cons.mpr ⟨List.forall_mem_nil _, ih⟩
    case isFalse hd =>
      obtain ⟨first, rest, heq⟩ := List.exists_cons_of_ne_nil (List.splitOnP_ne_nil p s)
      rw [heq, List.forall_mem_cons] at ih
      rw [heq, List.modifyHead_cons, List.forall_mem_cons, List.forall_mem_cons]
      exact ⟨⟨Bool.eq_false_iff.mpr hd, ih.1⟩, ih.2⟩

/-- The segments that are followed from settled ones on become settled. -/
theorem settled_of_mem_follow (hfile : scheme ≠ fileScheme)
    (hparts : ∀ s ∈ parts, ∀ c ∈ s, isSeparator (isSpecial scheme) c = false)
    (h : ∀ s ∈ before, Settled scheme s) : ∀ s ∈ follow scheme before parts, Settled scheme s := by
  refine forall_mem_follow (settled_nil scheme) (fun s hs hdots hdot => ?_) h
  rw [if_neg (by simp [hfile])]
  exact settled_percentEncode (hparts s hs) hdot hdots

theorem follow_ne_nil (h : before ≠ [] ∨ parts ≠ []) : follow scheme before parts ≠ [] := by
  fun_induction follow scheme before parts with
  | case1 before => simpa using h
  | case2 before s rest dots hup ih => exact ih (by cases rest <;> simp)
  | case3 before s rest dots hup hstay ih => exact ih (by cases rest <;> simp)
  | case4 before s rest dots hup hstay written ih => exact ih (by simp)

/-- A URL of the web that was read has settled segments, and one at least. -/
theorem exists_settled_of_parse (h : parse text = .ok u)
    (hscheme : u.scheme ∈ [['h', 't', 't', 'p'], ['h', 't', 't', 'p', 's']]) :
    ∃ parts, u.path = .segments parts ∧ parts ≠ [] ∧ ∀ s ∈ parts, Settled u.scheme s := by
  obtain ⟨hspecial, hfile, -⟩ := special_of_web hscheme
  obtain ⟨rest, v, query, fragment, hmiddle, rfl⟩ := parse_eq_ok h
  obtain ⟨authority, path, w, hw, hv⟩ := parseMiddle_eq_ok hspecial hfile hmiddle
  have hpath : v.path = .segments (parseSegments v.scheme path) := congrArg Url.path hv
  refine ⟨_, hpath, follow_ne_nil (.inr (List.splitOnP_ne_nil _ _)), ?_⟩
  exact settled_of_mem_follow hfile forall_mem_splitOnP (List.forall_mem_nil _)

end Url
end SchemaSdk.Web
