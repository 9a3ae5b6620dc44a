import Mathlib.Data.List.TakeWhile
import SchemaSdk.Proofs.Lookup
import SchemaSdk.Proofs.Text.Words
import SchemaSdk.Proofs.Web.Form

/-!
# URLs cut at their marks

A question mark starts the query of a URL, and a number sign its fragment. In the text of a URL that
was read neither stands before its place, as whatever could hold one is encoded or refused, so what
stands between the first two marks is the query. Adding pairs to the query leaves that so.
-/
namespace SchemaSdk.Web

open SchemaSdk.Bytes

/-- Whether a character starts a query or a fragment. -/
def isMark (c : Char) : Bool := c == '?' || c == '#'

/-- A text in which no query and no fragment starts. -/
def Unmarked (s : List Char) : Prop := ∀ c ∈ s, isMark c = false

instance : DecidablePred Unmarked := fun s => List.decidableBAll (isMark · = false) s

/-! ## Characters that are no marks -/

section Characters

variable {c : Char}

/-- A property that the marks do not have is one of other characters only. -/
theorem isMark_eq_false {P : Char → Prop} (hquestion : ¬P '?') (hhash : ¬P '#') (hc : P c) :
    isMark c = false := by
  rw [isMark, Bool.or_eq_false_iff, beq_eq_false_iff_ne, beq_eq_false_iff_ne]
  constructor
  · rintro rfl
    exact hquestion hc
  · rintro rfl
    exact hhash hc

theorem isMark_of_isAlphanum : c.isAlphanum = true → isMark c = false :=
  isMark_eq_false (P := (·.isAlphanum = true)) (by decide) (by decide)

theorem isMark_of_isForbidden : Host.isForbidden c = false → isMark c = false :=
  isMark_eq_false (P := (Host.isForbidden · = false)) (by decide) (by decide)

theorem isMark_of_encodedInPath : Url.encodedInPath c = false → isMark c = false :=
  isMark_eq_false (P := (Url.encodedInPath · = false)) (by decide) (by decide)

theorem encodedInPath_of_encodedInUser (h : Url.encodedInUser c = false) :
    Url.encodedInPath c = false :=
  (Bool.or_eq_false_iff.mp h).1

/-- A property of the letters and digits of ASCII can be checked on the code points. -/
theorem of_isAlphanum {P : Char → Prop}
    (h : ∀ n < 0x80, (Char.ofNat n).isAlphanum = true → P (Char.ofNat n))
    (hc : c.isAlphanum = true) : P c := by
  have hascii : c.toNat < 0x80 := Schema.ascii_of_isNamePart (by simp [Schema.isNamePart, hc])
  exact Text.forall_ascii (P := fun c => c.isAlphanum = true → P c) h c hascii hc

end Characters

/-! ## Texts without marks -/

section Texts

variable {s t : List Char}

theorem unmarked_nil : Unmarked [] := by
  simp [Unmarked]

theorem Unmarked.notMem {c : Char} (hs : Unmarked s) (hc : isMark c = true) : c ∉ s :=
  fun hmem => absurd hc (Bool.eq_false_iff.mp (hs c hmem))

theorem Unmarked.append (hs : Unmarked s) (ht : Unmarked t) : Unmarked (s ++ t) :=
  List.forall_mem_append.mpr ⟨hs, ht⟩

theorem Unmarked.cons {c : Char} (hc : isMark c = false) (hs : Unmarked s) : Unmarked (c :: s) :=
  List.forall_mem_cons.mpr ⟨hc, hs⟩

theorem Unmarked.intercalate {sep : List Char} {parts : List (List Char)} (hsep : Unmarked sep)
    (h : ∀ p ∈ parts, Unmarked p) : Unmarked (sep.intercalate parts) := by
  intro c hc
  rcases Text.mem_of_mem_intercalate hc with hc | ⟨p, hp, hc⟩
  · exact hsep c hc
  · exact h p hp c hc

/-- What is in a text after encoding: percent signs, letters and digits, and what was in it before
and is not encoded. -/
theorem of_mem_percentEncode {encoded : Char → Bool} {c : Char} (h : c ∈ percentEncode encoded s) :
    c = '%' ∨ c.isAlphanum = true ∨ c ∈ s ∧ encoded c = false := by
  obtain ⟨d, hd, hc⟩ := List.mem_flatMap.mp h
  rw [percentChar] at hc
  split at hc
  · obtain ⟨b, -, hc⟩ := List.mem_flatMap.mp hc
    exact (Form.mem_percentByte hc).imp_right .inl
  case isFalse hplain =>
    rw [List.mem_singleton.mp hc]
    exact .inr (.inr ⟨hd, Bool.eq_false_iff.mpr hplain⟩)

theorem unmarked_percentEncode {encoded : Char → Bool}
    (h : ∀ c, encoded c = false → isMark c = false) (s : List Char) :
    Unmarked (percentEncode encoded s) := by
  intro c hc
  rcases of_mem_percentEncode hc with rfl | hc | ⟨-, hc⟩
  · decide
  · exact isMark_of_isAlphanum hc
  · exact h c hc

theorem isAlphanum_of_mem_toDigits {base n : Nat} (hbase : 1 < base) (hmost : base ≤ 16) {c : Char}
    (hc : c ∈ Nat.toDigits base n) : c.isAlphanum = true := by
  have hdigit : ∀ k < 16, k.digitChar.isAlphanum = true := by decide
  induction n using Nat.strongRecOn with
  | _ n ih =>
    by_cases hn : n < base
    · rw [Nat.toDigits_of_lt_base hn, List.mem_singleton] at hc
      rw [hc]
      exact hdigit n (by omega)
    · rw [Nat.toDigits_of_base_le hbase (by omega), List.mem_append, List.mem_singleton] at hc
      rcases hc with hc | rfl
      · exact ih (n / base) (Nat.div_lt_self (by omega) hbase) hc
      · exact hdigit _ (Nat.lt_of_lt_of_le (Nat.mod_lt n (by omega)) hmost)

theorem unmarked_toDigits {base n : Nat} (hbase : 1 < base) (hmost : base ≤ 16) :
    Unmarked (Nat.toDigits base n) :=
  fun _ hc => isMark_of_isAlphanum (isAlphanum_of_mem_toDigits hbase hmost hc)

end Texts

/-! ## Hosts -/

namespace Punycode

theorem isAlphanum_digit {n : Nat} (h : n < 36) : (digit n).isAlphanum = true := by
  revert n
  decide

theorem threshold_le (k bias : Nat) : threshold k bias ≤ 26 := by
  unfold threshold
  split
  · omega
  · split <;> omega

theorem isAlphanum_of_mem_digits {bias q k : Nat} {c : Char} (h : c ∈ digits bias q k) :
    c.isAlphanum = true := by
  have hleast := threshold_pos k bias
  have hmost := threshold_le k bias
  fun_induction digits bias q k with
  | case1 q k t hq =>
    rw [List.mem_singleton.mp h]
    exact isAlphanum_digit (Nat.lt_of_lt_of_le hq (Nat.le_trans hmost (by decide)))
  | case2 q k t hq ih =>
    rcases List.mem_cons.mp h with rfl | h
    · have hrest := Nat.mod_lt (q - t) (show 0 < 36 - t by omega)
      exact isAlphanum_digit (by omega)
    · exact ih h (threshold_pos _ _) (threshold_le _ _)

/-- What the encoder has written so far consists of what it started from, letters and digits. -/
theorem of_mem_output_visit {basic n : Nat} {p : Progress} {d c : Char}
    (h : c ∈ (visit basic n p d).output) : c ∈ p.output ∨ c.isAlphanum = true := by
  rw [visit] at h
  split at h
  · exact .inl h
  split at h
  · exact (List.mem_append.mp h).imp_right isAlphanum_of_mem_digits
  · exact .inl h

theorem of_mem_output_foldl {basic n : Nat} {label : List Char} {p : Progress} {c : Char}
    (h : c ∈ (label.foldl (visit basic n) p).output) : c ∈ p.output ∨ c.isAlphanum = true := by
  induction label generalizing p with
  | nil => exact .inl h
  | cons d label ih =>
    rcases ih h with h | h
    · exact of_mem_output_visit h
    · exact .inr h

theorem of_mem_output_go {label : List Char} {basic n : Nat} {ms : List Nat} {p : Progress}
    {c : Char} (h : c ∈ (go label basic ms n p).output) :
    c ∈ p.output ∨ c.isAlphanum = true := by
  induction ms generalizing n p with
  | nil => exact .inl h
  | cons m ms ih =>
    rw [go] at h
    rcases ih h with h | h
    · exact of_mem_output_foldl (p := { p with delta := p.delta + (m - n) * (p.handled + 1) }) h
    · exact .inr h

theorem of_mem_encode {label : List Char} {c : Char} (h : c ∈ encode label) :
    c ∈ label ∨ c = '-' ∨ c.isAlphanum = true := by
  rcases of_mem_output_go h with h | h
  · dsimp only at h
    split at h
    · cases h
    rcases List.mem_append.mp h with h | h
    · exact .inl (List.mem_filter.mp h).1
    · exact .inr (.inl (List.mem_singleton.mp h))
  · exact .inr (.inr h)

end Punycode

namespace Host

theorem isForbidden_of_isAlphanum {c : Char} (h : c.isAlphanum = true) : isForbidden c = false :=
  of_isAlphanum (P := (isForbidden · = false)) (by decide) h

theorem isForbidden_of_asciiLabel? {label ascii : List Char}
    (hlabel : ∀ c ∈ label, isForbidden c = false) (h : asciiLabel? label = some ascii) :
    ∀ c ∈ ascii, isForbidden c = false := by
  rw [asciiLabel?] at h
  split at h
  · split at h
    · rwa [← Option.some.inj h]
    · cases h
  split at h
  · rwa [← Option.some.inj h]
  rw [← Option.some.inj h]
  have hmark : labelMark.any isForbidden = false := by decide
  refine List.forall_mem_append.mpr ⟨fun c hc => ?_, fun c hc => ?_⟩
  · exact Bool.eq_false_iff.mpr (List.any_eq_false.mp hmark c hc)
  rcases Punycode.of_mem_encode hc with hc | rfl | hc
  · exact hlabel c hc
  · decide
  · exact isForbidden_of_isAlphanum hc

/-- The name of a host has no characters that are forbidden, as they are refused. -/
theorem isForbidden_of_asciiName? {s ascii : List Char} (h : asciiName? s = some ascii) :
    ∀ c ∈ ascii, isForbidden c = false := by
  rw [asciiName?] at h
  split at h
  · cases h
  case isFalse hforbidden =>
    have hwritten : ∀ c ∈ s.flatMap nameChars, isForbidden c = false := by
      intro c hc
      rw [List.any_eq_true, not_exists] at hforbidden
      exact Bool.eq_false_iff.mpr fun hf => hforbidden c ⟨hc, hf⟩
    obtain ⟨labels, hlabels, rfl⟩ := Option.map_eq_some_iff.mp h
    intro c hc
    rcases Text.mem_of_mem_intercalate hc with hc | ⟨label, hlabel, hc⟩
    · rw [List.mem_singleton.mp hc]
      decide
    obtain ⟨part, hpart, hlabel⟩ := exists_of_mem_mapM hlabels hlabel
    refine isForbidden_of_asciiLabel? (fun c hc => hwritten c ?_) hlabel c hc
    have hwhole : ['.'].intercalate ((s.flatMap nameChars).splitOn '.') = s.flatMap nameChars :=
      List.intercalate_splitOn '.'
    rw [← hwhole]
    exact Text.mem_intercalate_of_mem hpart hc

theorem unmarked_piecesText (ps : List Nat) : Unmarked (piecesText ps) := by
  refine Unmarked.intercalate (by decide) fun p hp => ?_
  obtain ⟨n, -, rfl⟩ := List.mem_map.mp hp
  exact unmarked_toDigits (by decide) (by decide)

theorem unmarked_compressed (run : Nat) (before after : List Nat) :
    Unmarked (compressed run before after) := by
  fun_induction compressed run before after with
  | case1 before => exact unmarked_piecesText before
  | case2 before n r h =>
    exact ((unmarked_piecesText before).append (by decide)).append (unmarked_piecesText _)
  | case3 before n r h ih => exact ih

theorem unmarked_text_ipv4 (address : Nat) : Unmarked (ipv4 address).text := by
  refine Unmarked.intercalate (by decide) fun p hp => ?_
  obtain ⟨n, -, rfl⟩ := List.mem_map.mp hp
  exact unmarked_toDigits (by decide) (by decide)

theorem unmarked_text_ipv6 (pieces : List Nat) : Unmarked (ipv6 pieces).text := by
  have hpieces : Unmarked (if longestRun pieces < 2 then piecesText pieces
      else compressed (longestRun pieces) [] pieces) := by
    split
    · exact unmarked_piecesText pieces
    · exact unmarked_compressed _ _ _
  exact (hpieces.cons (by decide)).append (by decide)

/-- A name that was read is one in ASCII, and not empty. -/
theorem exists_asciiName?_of_parse {s name : List Char} (h : parse s = .ok (.name name)) :
    name ≠ [] ∧ ∃ t, asciiName? t = some name := by
  unfold parse at h
  split at h
  · split at h
    · split at h <;> cases h
    · cases h
  split at h
  · cases h
  case h_2 ascii hascii =>
    obtain ⟨t, -, ht⟩ := Option.bind_eq_some_iff.mp hascii
    split at h
    · cases h
    case isFalse hempty =>
    split at h
    · split at h <;> cases h
    · cases h
      exact ⟨by simpa using hempty, t, ht⟩

/-- The text of a host that was read has no marks. -/
theorem unmarked_text {s : List Char} {host : Host} (h : parse s = .ok host) :
    Unmarked host.text := by
  cases host with
  | ipv4 address => exact unmarked_text_ipv4 address
  | ipv6 pieces => exact unmarked_text_ipv6 pieces
  | name name =>
    obtain ⟨-, t, ht⟩ := exists_asciiName?_of_parse h
    exact fun c hc => isMark_of_isForbidden (isForbidden_of_asciiName? ht c hc)

end Host

/-! ## Paths -/

namespace Url

theorem mem_of_mem_shorten {segments : List (List Char)} {s : List Char}
    (h : s ∈ shorten segments) : s ∈ segments := by
  rw [shorten] at h
  split at h
  · exact h
  · exact List.dropLast_subset segments h

/-- The segments of a path are those before it, empty ones, and what is written for the segments
that are followed and are no dots. -/
theorem forall_mem_follow {P : List Char → Prop} {scheme : List Char}
    {before parts : List (List Char)} (hnil : P [])
    (hwritten : ∀ s ∈ parts, plainDots s ≠ ['.', '.'] → plainDots s ≠ ['.'] →
      P (percentEncode encodedInPath
        (if scheme == fileScheme && isDrive s then s.take 1 ++ [':'] else s)))
    (h : ∀ s ∈ before, P s) : ∀ s ∈ follow scheme before parts, P s := by
  have hend {l : List (List Char)} (hl : ∀ s ∈ l, P s) : ∀ s ∈ l ++ [[]], P s :=
    List.forall_mem_append.mpr ⟨hl, List.forall_mem_singleton.mpr hnil⟩
  have hshorter {l : List (List Char)} (hl : ∀ s ∈ l, P s) : ∀ s ∈ shorten l, P s :=
    fun s hs => hl s (mem_of_mem_shorten hs)
  fun_induction follow scheme before parts with
  | case1 before => exact h
  | case2 before s rest dots hup ih =>
    refine ih (List.forall_mem_cons.mp hwritten).2 ?_
    split
    · exact hend (hshorter h)
    · exact hshorter h
  | case3 before s rest dots hup hstay ih =>
    refine ih (List.forall_mem_cons.mp hwritten).2 ?_
    split
    · exact hend h
    · exact h
  | case4 before s rest dots hup hstay written ih =>
    obtain ⟨hs, hrest⟩ := List.forall_mem_cons.mp hwritten
    refine ih hrest (List.forall_mem_append.mpr ⟨h, List.forall_mem_singleton.mpr ?_⟩)
    exact hs (by simpa using hup) (by simpa using hstay)

/-- Segments that are followed are encoded, so that they have no marks. -/
theorem unmarked_of_mem_follow {scheme : List Char} {before parts : List (List Char)}
    (h : ∀ s ∈ before, Unmarked s) : ∀ s ∈ follow scheme before parts, Unmarked s :=
  forall_mem_follow unmarked_nil
    (fun _ _ _ _ => unmarked_percentEncode (fun _ => isMark_of_encodedInPath) _) h

theorem unmarked_pathText {parts : List (List Char)} (h : ∀ s ∈ parts, Unmarked s) :
    Unmarked (pathText (.segments parts)) := by
  intro c hc
  obtain ⟨s, hs, hc⟩ := List.mem_flatMap.mp hc
  rcases List.mem_cons.mp hc with rfl | hc
  · decide
  · exact h s hs c hc

/-! ## What stands before the query -/

theorem unmarked_userText {u : Url} (hname : Unmarked u.username)
    (hpassword : Unmarked u.password) : Unmarked u.userText := by
  rw [userText]
  split
  · exact unmarked_nil
  refine (hname.append ?_).append (by decide)
  split
  · exact unmarked_nil
  · exact hpassword.cons (by decide)

theorem unmarked_authorityText {u : Url} {host : Host} (hhost : u.host = some host)
    (huser : Unmarked u.userText) (htext : Unmarked host.text) : Unmarked u.authorityText := by
  rw [authorityText, hhost]
  refine (((Unmarked.append (by decide) huser).append htext).append ?_)
  split
  · exact (unmarked_toDigits (by decide) (by decide)).cons (by decide)
  · exact unmarked_nil

/-- An authority that was read consists of encoded names, and a host that was read. -/
theorem parseAuthority_eq_ok {scheme s : List Char} {u : Url}
    (h : parseAuthority scheme s = .ok u) : u.scheme = scheme ∧
      (∃ name, u.username = percentEncode encodedInUser name) ∧
      (∃ password, u.password = percentEncode encodedInUser password) ∧
      ∃ t host, (if isSpecial scheme then Host.parse t else Host.parsePlain t) = .ok host ∧
        u.host = some host := by
  unfold parseAuthority at h
  simp only [bind, Except.bind, pure, Except.pure, throw, throwThe, MonadExceptOf.throw] at h
  split at h
  -- With and without users the same is left to read.
  all_goals
    split at h
    · cases h
    split at h
    all_goals
      rename_i hspecial
      split at h
      · cases h
      rename_i host hhost
      split at h
      · cases h
      split at h
      · cases h
      cases h
    · exact ⟨rfl, ⟨_, rfl⟩, ⟨_, rfl⟩, _, host, (if_pos hspecial).trans hhost, rfl⟩
    · exact ⟨rfl, ⟨_, rfl⟩, ⟨_, rfl⟩, _, host, (if_neg hspecial).trans hhost, rfl⟩

/-- The authority of a URL of the web has no marks, whatever path comes after it. -/
theorem unmarked_of_parseAuthority {scheme s : List Char} {u : Url}
    (hspecial : isSpecial scheme = true) (h : parseAuthority scheme s = .ok u) (path : UrlPath) :
    Unmarked (authorityText { u with path := path }) := by
  obtain ⟨-, ⟨name, hname⟩, ⟨password, hpassword⟩, t, host, ht, hhost⟩ := parseAuthority_eq_ok h
  rw [if_pos hspecial] at ht
  have hencoded (s : List Char) : Unmarked (percentEncode encodedInUser s) :=
    unmarked_percentEncode
      (fun _ hc => isMark_of_encodedInPath (encodedInPath_of_encodedInUser hc)) s
  have huser : Unmarked u.userText := by
    refine unmarked_userText ?_ ?_
    · rw [hname]
      exact hencoded name
    · rw [hpassword]
      exact hencoded password
  exact unmarked_authorityText hhost huser (Host.unmarked_text ht)

theorem scheme_of_parseFile {s : List Char} {u : Url} (h : parseFile s = .ok u) :
    u.scheme = fileScheme := by
  unfold parseFile at h
  dsimp only at h
  split at h
  · split at h
    · split at h
      · cases h
        rfl
      split at h
      · cases h
        rfl
      split at h
      · cases h
      · cases h
        rfl
    · cases h
      rfl
  · cases h
    rfl

theorem scheme_of_parseMiddle {scheme s : List Char} {u : Url} (h : parseMiddle scheme s = .ok u) :
    u.scheme = scheme := by
  unfold parseMiddle at h
  split at h
  case isTrue hfile => exact (scheme_of_parseFile h).trans (eq_of_beq hfile).symm
  dsimp only [bind, Except.bind, pure, Except.pure] at h
  split at h
  · split at h
    · cases h
    case h_2 v hv =>
      cases h
      exact (parseAuthority_eq_ok hv).1
  · split at h
    · split at h
      · cases h
      case h_2 v hv =>
        cases h
        exact (parseAuthority_eq_ok hv).1
    · cases h
      rfl
    · cases h
      rfl

/-- Between scheme and query a URL of the web has an authority and a path. -/
theorem parseMiddle_eq_ok {scheme s : List Char} {u : Url} (hspecial : isSpecial scheme = true)
    (hfile : scheme ≠ fileScheme) (h : parseMiddle scheme s = .ok u) :
    ∃ authority path v, parseAuthority scheme authority = .ok v ∧
      u = { v with path := .segments (parseSegments scheme path) } := by
  unfold parseMiddle at h
  rw [if_neg (by simpa using hfile)] at h
  dsimp only [bind, Except.bind, pure, Except.pure] at h
  simp only [hspecial, Bool.not_true, Bool.and_false, Bool.false_eq_true, if_false, if_true] at h
  split at h
  · cases h
  case h_2 v hv =>
    cases h
    exact ⟨_, _, v, hv, rfl⟩

/-- What stands between scheme and query of a URL of the web has no marks. -/
theorem unmarked_of_parseMiddle {scheme s : List Char} {u : Url}
    (hspecial : isSpecial scheme = true) (hfile : scheme ≠ fileScheme)
    (h : parseMiddle scheme s = .ok u) :
    Unmarked u.authorityText ∧ Unmarked (pathText u.path) := by
  obtain ⟨authority, path, v, hv, rfl⟩ := parseMiddle_eq_ok hspecial hfile h
  exact ⟨unmarked_of_parseAuthority hspecial hv _,
    unmarked_pathText (unmarked_of_mem_follow (List.forall_mem_nil _))⟩

/-- A URL that was read is what stands before its query, with an encoded query and fragment. -/
theorem parse_eq_ok {text : String} {u : Url} (h : parse text = .ok u) :
    ∃ rest v query fragment, parseMiddle v.scheme rest = .ok v ∧
      u = { v with
        query := Option.map (percentEncode (encodedInQuery (isSpecial v.scheme))) query
        fragment := Option.map (percentEncode encodedInFragment) fragment } := by
  unfold parse at h
  split at h
  · cases h
  dsimp only [bind, Except.bind, pure, Except.pure] at h
  split at h
  · cases h
  case h_2 v hv =>
    obtain rfl := scheme_of_parseMiddle hv
    cases h
    exact ⟨_, v, _, _, hv, rfl⟩

/-! ## Where the query stands -/

/-- A URL whose text can be cut at its marks: none stands before the query, and the query has none
of a fragment. -/
structure Cuttable (u : Url) : Prop where
  before : Unmarked (u.scheme ++ ':' :: u.authorityText ++ pathText u.path)
  query : ∀ q ∈ u.query, '#' ∉ q

/-- What stands between the marks of a query and of a fragment in a text. -/
def queryOf? (s : List Char) : Option (List Char) := (splitAtChar '?' (splitAtChar '#' s).1).2

theorem splitAtChar_append_cons {mark : Char} {s : List Char} (h : mark ∉ s) (t : List Char) :
    splitAtChar mark (s ++ mark :: t) = (s, some t) := by
  have hs : ∀ c ∈ s, (c != mark) = true := fun c hc =>
    bne_iff_ne.mpr (ne_of_mem_of_not_mem hc h)
  rw [splitAtChar, List.takeWhile_append_of_pos hs, List.dropWhile_append_of_pos hs]
  simp

theorem splitAtChar_of_notMem {mark : Char} {s : List Char} (h : mark ∉ s) :
    splitAtChar mark s = (s, none) := by
  have hs : ∀ c ∈ s, (c != mark) = true := fun c hc =>
    bne_iff_ne.mpr (ne_of_mem_of_not_mem hc h)
  rw [splitAtChar, List.takeWhile_eq_self_iff.mpr hs, if_neg (by simpa using h)]

/-- The query of a URL is what a reader of its text finds between the marks. -/
theorem queryOf?_text {u : Url} (h : u.Cuttable) : queryOf? u.text.toList = u.query := by
  have hhash : '#' ∉ u.scheme ++ ':' :: u.authorityText ++ pathText u.path :=
    h.before.notMem (by decide)
  have hquestion : '?' ∉ u.scheme ++ ':' :: u.authorityText ++ pathText u.path :=
    h.before.notMem (by decide)
  rw [text, String.toList_ofList, queryOf?]
  generalize u.scheme ++ ':' :: u.authorityText ++ pathText u.path = before at hhash hquestion
  cases hq : u.query with
  | none =>
    rw [List.append_nil]
    cases u.fragment with
    | none => rw [List.append_nil, splitAtChar_of_notMem hhash, splitAtChar_of_notMem hquestion]
    | some f => rw [splitAtChar_append_cons hhash, splitAtChar_of_notMem hquestion]
  | some q =>
    have hwhole : '#' ∉ before ++ '?' :: q := by
      simpa using ⟨hhash, h.query q hq⟩
    cases u.fragment with
    | none => rw [List.append_nil, splitAtChar_of_notMem hwhole, splitAtChar_append_cons hquestion]
    | some f => rw [splitAtChar_append_cons hwhole, splitAtChar_append_cons hquestion]

/-- What is written for pairs has no mark of a fragment. -/
theorem notMem_encode (pairs : List (String × String)) : '#' ∉ Form.encode pairs := by
  have hpair (p : String × String) : '#' ∉ Form.encodePair p := by
    simp [Form.encodePair, Form.not_mem_encodePart (c := '#') (by decide)]
  fun_induction Form.encode pairs with
  | case1 => exact List.not_mem_nil
  | case2 p => exact hpair p
  | case3 p ps hps ih => simp [hpair p, ih]

/-- Pairs that are added to the query leave the marks where they are. -/
theorem Cuttable.addPairs {u : Url} (h : u.Cuttable) (pairs : List (String × String)) :
    (u.addPairs pairs).Cuttable := by
  refine ⟨h.before, fun q hq => ?_⟩
  cases hq
  split
  · exact notMem_encode pairs
  · exact notMem_encode pairs
  case h_3 q _ hquery => simp [h.query q hquery, notMem_encode pairs]

/-- Schemes of the web have hosts, and they are no schemes of files. They have no marks. -/
theorem special_of_web {scheme : List Char}
    (h : scheme ∈ [['h', 't', 't', 'p'], ['h', 't', 't', 'p', 's']]) :
    isSpecial scheme = true ∧ scheme ≠ fileScheme ∧ Unmarked scheme := by
  revert scheme
  decide

/-- A URL of the web that was read can be cut at its marks. -/
theorem cuttable_of_parse {text : String} {u : Url} (h : parse text = .ok u)
    (hscheme : u.scheme ∈ [['h', 't', 't', 'p'], ['h', 't', 't', 'p', 's']]) : u.Cuttable := by
  obtain ⟨hspecial, hfile, hunmarked⟩ := special_of_web hscheme
  obtain ⟨rest, v, query, fragment, hmiddle, rfl⟩ := parse_eq_ok h
  obtain ⟨hauthority, hpath⟩ := unmarked_of_parseMiddle hspecial hfile hmiddle
  refine ⟨(hunmarked.append (hauthority.cons (by decide))).append hpath, fun q hq => ?_⟩
  obtain ⟨s, -, rfl⟩ := Option.map_eq_some_iff.mp hq
  intro hmem
  rcases of_mem_percentEncode hmem with h | h | ⟨-, h⟩
  · exact absurd h (by decide)
  · exact absurd h (by decide)
  · simp [encodedInQuery] at h

end Url
end SchemaSdk.Web
