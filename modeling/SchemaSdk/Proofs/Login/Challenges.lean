import SchemaSdk.Proofs.Bytes.Base64Url
import SchemaSdk.Proofs.Login.Exchange

/-!
# Challenges for verifiers

A text is checked to be a verifier by its bytes, which comes to the same as to look at its
characters: those beyond ASCII have no byte that may stand in one. The challenge for a verifier is
the digest of its bytes in Base64, so that the digest can be read off it. A key holds a verifier and
its challenge in either of the two ways to make one, and a request carries this challenge.
-/
namespace SchemaSdk.Login

open SchemaSdk.Bytes

/-! ## Verifiers -/

/-- Whether a character may stand in a verifier: a letter or a digit of ASCII, or one of four
signs. -/
def isVerifierChar (c : Char) : Bool := c.isAlphanum || ['-', '.', '_', '~'].contains c

/-- A text of 43 to 128 bytes with unreserved characters only. -/
structure IsVerifier (v : String) : Prop where
  least : 43 ≤ v.utf8ByteSize
  most : v.utf8ByteSize ≤ 128
  chars : ∀ c ∈ v.toList, isVerifierChar c = true

theorem lt_of_isUnreserved {b : UInt8} (h : isUnreserved b = true) : b < 0x80 := by
  simp only [isUnreserved, Bool.or_eq_true, Bool.and_eq_true, decide_eq_true_eq,
    List.contains_eq_mem, List.mem_cons, List.not_mem_nil, or_false, UInt8.le_iff_toNat_le] at h
  rw [UInt8.lt_iff_toNat_lt]
  rcases h with ((h | h) | h) | rfl | rfl | rfl | rfl
  · exact Nat.lt_of_le_of_lt h.2 (by decide)
  · exact Nat.lt_of_le_of_lt h.2 (by decide)
  · exact Nat.lt_of_le_of_lt h.2 (by decide)
  all_goals decide

theorem ascii_of_isVerifierChar {c : Char} (h : isVerifierChar c = true) : c.toNat < 0x80 := by
  rw [isVerifierChar, Bool.or_eq_true] at h
  rcases h with h | h
  · exact Schema.ascii_of_isNamePart (Bool.or_eq_true_iff.mpr (.inr h))
  · simp only [List.contains_eq_mem, List.mem_cons, List.not_mem_nil, or_false,
      decide_eq_true_eq] at h
    rcases h with rfl | rfl | rfl | rfl <;> decide

/-- The bytes of a character are unreserved if the character is: beyond ASCII the first of them is
none of ASCII's. -/
theorem all_isUnreserved_eq (c : Char) :
    (String.utf8EncodeChar c).all isUnreserved = isVerifierChar c := by
  have hascii : c.toNat < 0x80 → (String.utf8EncodeChar c).all isUnreserved = isVerifierChar c :=
    Text.forall_ascii (P := fun c => (String.utf8EncodeChar c).all isUnreserved =
      isVerifierChar c) (by decide) c
  by_cases hc : c.toNat < 0x80
  · exact hascii hc
  have hchar : isVerifierChar c = false :=
    Bool.eq_false_iff.mpr fun h => hc (ascii_of_isVerifierChar h)
  rw [hchar, Bool.eq_false_iff]
  intro h
  obtain ⟨b, bs, hbytes, hnext⟩ := Utf8.next_utf8EncodeChar c []
  rw [hbytes, List.all_cons, Bool.and_eq_true] at h
  have hb : b < 0x80 := lt_of_isUnreserved h.1
  rw [Utf8.next, if_pos hb, Prod.mk.injEq, Option.some.injEq] at hnext
  rw [← hnext.1] at hc
  exact hc (UInt8.lt_iff_toNat_lt.mp hb)

theorem isVerifier_iff {v : String} : isVerifier v = true ↔ IsVerifier v := by
  have hchars : (Utf8.encode v.toList).all isUnreserved = true ↔
      ∀ c ∈ v.toList, isVerifierChar c = true := by
    rw [Utf8.encode, List.all_flatMap, List.all_eq_true]
    simp only [all_isUnreserved_eq]
  rw [isVerifier, Bool.and_eq_true, Bool.and_eq_true, decide_eq_true_eq, decide_eq_true_eq, hchars]
  constructor
  · rintro ⟨⟨hleast, hmost⟩, hunreserved⟩
    exact ⟨hleast, hmost, hunreserved⟩
  · rintro ⟨hleast, hmost, hunreserved⟩
    exact ⟨⟨hleast, hmost⟩, hunreserved⟩

/-! ## Challenges -/

/-- The digest of the bytes of a text. -/
def digestOf (v : String) : List UInt8 := Sha256.digest (Utf8.encode v.toList)

theorem challengeFor_eq_ok_iff {v c : String} :
    challengeFor v = .ok c ↔ IsVerifier v ∧ c = challengeOf v := by
  rw [challengeFor, ← isVerifier_iff]
  split
  case isTrue h => simp [h, eq_comm]
  case isFalse h => simp [h]

theorem challengeFor_eq_error {v : String} (h : ¬IsVerifier v) :
    challengeFor v = .error .invalidVerifier := by
  rw [challengeFor, if_neg]
  rwa [isVerifier_iff]

theorem toList_challengeOf (v : String) :
    (challengeOf v).toList = Base64Url.encode (digestOf v) := by
  rw [challengeOf, String.toList_ofList, digestOf]

/-- A challenge has 43 characters of the alphabet. -/
theorem length_challengeOf (v : String) : (challengeOf v).length = 43 ∧
    ∀ x ∈ (challengeOf v).toList, Base64Url.inAlphabet x = true := by
  have hlength : (digestOf v).length = 32 := Sha256.length_digest _
  rw [← String.length_toList, toList_challengeOf, Base64Url.length_encode, hlength]
  exact ⟨rfl, fun x hx => Base64Url.inAlphabet_of_mem_encode hx⟩

/-- The challenge for a verifier is the text that reads as its digest, and there is one such text. -/
theorem challengeFor_eq_ok_iff_reads {v c : String} : challengeFor v = .ok c ↔
    IsVerifier v ∧ Base64Url.decode? c.toList = some (digestOf v) := by
  rw [challengeFor_eq_ok_iff, Base64Url.decode?_eq_some_iff, ← toList_challengeOf,
    String.toList_inj]

/-! ## Keys -/

/-- The alphabet of Base64 lacks two of the signs that a verifier may have. -/
theorem isVerifierChar_of_inAlphabet {c : Char} (h : Base64Url.inAlphabet c = true) :
    isVerifierChar c = true := by
  rw [Base64Url.inAlphabet, Bool.or_eq_true, Bool.or_eq_true, beq_iff_eq, beq_iff_eq] at h
  rcases h with (h | rfl) | rfl
  · rw [isVerifierChar, h, Bool.true_or]
  · decide
  · decide

/-- Random bytes make a verifier of the length that is meant for new ones. -/
theorem isVerifier_ofRandom {random : List UInt8} (h : random.length = ProofKey.randomBytes) :
    (ProofKey.ofRandom random).verifier.utf8ByteSize = ProofKey.verifierLength ∧
      IsVerifier (ProofKey.ofRandom random).verifier := by
  have hchars : ∀ c ∈ Base64Url.encode random, isVerifierChar c = true := fun c hc =>
    isVerifierChar_of_inAlphabet (Base64Url.inAlphabet_of_mem_encode hc)
  have hsize : (ProofKey.ofRandom random).verifier.utf8ByteSize = ProofKey.verifierLength := by
    rw [ProofKey.ofRandom, Text.utf8ByteSize_ofList_of_ascii fun c hc =>
      ascii_of_isVerifierChar (hchars c hc), Base64Url.length_encode, h]
    rfl
  refine ⟨hsize, ?_, ?_, ?_⟩
  · rw [hsize]
    decide
  · rw [hsize]
    decide
  · rwa [ProofKey.ofRandom, String.toList_ofList]

namespace ProofKey

/-- A key is made from random bytes, or from a text that is checked to be a verifier. -/
inductive Made : ProofKey → Prop
  | random (bytes : List UInt8) (hlength : bytes.length = randomBytes) : Made (ofRandom bytes)
  | given {v : String} {k : ProofKey} (hkey : ofVerifier v = .ok k) : Made k

variable {k : ProofKey}

/-- A key holds a verifier with its challenge. -/
theorem Made.challengeFor_verifier (h : k.Made) : challengeFor k.verifier = .ok k.challenge := by
  cases h with
  | random bytes hlength =>
    exact challengeFor_eq_ok_iff.mpr ⟨(isVerifier_ofRandom hlength).2, rfl⟩
  | @given v _ hkey =>
    rw [ofVerifier] at hkey
    split at hkey
    · cases hkey
    case h_2 challenge hchallenge =>
      obtain rfl := Except.ok.inj hkey
      exact hchallenge

theorem Made.sentChallenge_eq (h : k.Made) : k.sentChallenge = k.challenge :=
  (challengeFor_eq_ok_iff.mp h.challengeFor_verifier).2.symm

end ProofKey

/-- **What a challenge is.** There is one exactly for verifiers. It has 43 characters of the
alphabet, which read as the digest of the verifier, so only verifiers with the same digest share a
challenge. A key holds a verifier with its challenge, and this is the challenge that it sends. -/
theorem challengeFor_reads (v : String) :
    ((∃ c, challengeFor v = .ok c) ↔ IsVerifier v) ∧
      (¬IsVerifier v → challengeFor v = .error .invalidVerifier) ∧
      (∀ c, challengeFor v = .ok c →
        c.length = 43 ∧ (∀ x ∈ c.toList, Base64Url.inAlphabet x = true ∧ x ∉ ['=', '+', '/']) ∧
          (digestOf v).length = 32 ∧ Base64Url.decode? c.toList = some (digestOf v) ∧
          ∀ w, challengeFor w = .ok c → digestOf w = digestOf v) ∧
      (∀ k : ProofKey, k.Made →
        IsVerifier k.verifier ∧ challengeFor k.verifier = .ok k.challenge ∧
          k.sentChallenge = k.challenge) ∧
      ∀ (client : Client) (scopes : List String) (random : Randomness),
        random.key.length = ProofKey.randomBytes →
          (Authorization.make client scopes random).key.Made ∧
            lastValue? (Authorization.make client scopes random).url "code_challenge" =
              some (Authorization.make client scopes random).key.challenge := by
  refine ⟨?_, challengeFor_eq_error, fun c hc => ?_, fun k hk => ?_,
    fun client scopes random h => ?_⟩
  · simp only [challengeFor_eq_ok_iff, exists_and_left, exists_eq, and_true]
  · have hread := (challengeFor_eq_ok_iff_reads.mp hc).2
    obtain ⟨-, rfl⟩ := challengeFor_eq_ok_iff.mp hc
    obtain ⟨hlength, halphabet⟩ := length_challengeOf v
    have hmarks : ∀ x ∈ (challengeOf v).toList,
        Base64Url.inAlphabet x = true ∧ x ∉ ['=', '+', '/'] :=
      fun x hx => ⟨halphabet x hx, Base64Url.notMem_of_inAlphabet (halphabet x hx)⟩
    refine ⟨hlength, hmarks, Sha256.length_digest _, hread, fun w hw => ?_⟩
    exact Option.some.inj ((challengeFor_eq_ok_iff_reads.mp hw).2.symm.trans hread)
  · have hchallenge := hk.challengeFor_verifier
    exact ⟨(challengeFor_eq_ok_iff.mp hchallenge).1, hchallenge, hk.sentChallenge_eq⟩
  · exact ⟨.random random.key h, (lastValue?_authorization client scopes random).2⟩

/-- A verifier, its challenge and a key with both; and a text that is too short for one. -/
theorem challengeFor_reads_known :
    challengeFor "dBjftJeZ4CVP-mB92K27uhbUJU1p1r_wW1gFWFOEjXk" =
        .ok "E9Melhoa2OwvFrEMTJguCHaoeK1t8URWbuGJSstw-cM" ∧
      Base64Url.decode? "E9Melhoa2OwvFrEMTJguCHaoeK1t8URWbuGJSstw-cM".toList =
        some (digestOf "dBjftJeZ4CVP-mB92K27uhbUJU1p1r_wW1gFWFOEjXk") ∧
      (ProofKey.mk "dBjftJeZ4CVP-mB92K27uhbUJU1p1r_wW1gFWFOEjXk"
        "E9Melhoa2OwvFrEMTJguCHaoeK1t8URWbuGJSstw-cM").sentChallenge =
          "E9Melhoa2OwvFrEMTJguCHaoeK1t8URWbuGJSstw-cM" ∧
      challengeFor "dBjftJeZ4CVP" = .error .invalidVerifier := by
  have hverifier : IsVerifier "dBjftJeZ4CVP-mB92K27uhbUJU1p1r_wW1gFWFOEjXk" :=
    isVerifier_iff.mp (by decide +kernel)
  have hchallenge : challengeFor "dBjftJeZ4CVP-mB92K27uhbUJU1p1r_wW1gFWFOEjXk" =
      .ok "E9Melhoa2OwvFrEMTJguCHaoeK1t8URWbuGJSstw-cM" :=
    challengeFor_eq_ok_iff.mpr ⟨hverifier, by decide +kernel⟩
  have hkey : ProofKey.ofVerifier "dBjftJeZ4CVP-mB92K27uhbUJU1p1r_wW1gFWFOEjXk" =
      .ok ⟨"dBjftJeZ4CVP-mB92K27uhbUJU1p1r_wW1gFWFOEjXk",
        "E9Melhoa2OwvFrEMTJguCHaoeK1t8URWbuGJSstw-cM"⟩ := by
    rw [ProofKey.ofVerifier, hchallenge]
  obtain ⟨-, -, hreads, hkeys, -⟩ :=
    challengeFor_reads "dBjftJeZ4CVP-mB92K27uhbUJU1p1r_wW1gFWFOEjXk"
  obtain ⟨-, hshort, -⟩ := challengeFor_reads "dBjftJeZ4CVP"
  refine ⟨hchallenge, (hreads _ hchallenge).2.2.2.1, (hkeys _ (.given hkey)).2.2, hshort ?_⟩
  exact fun h => absurd h.least (by decide)

end SchemaSdk.Login
