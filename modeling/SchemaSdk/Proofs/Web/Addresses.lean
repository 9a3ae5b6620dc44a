import SchemaSdk.Proofs.Web.Paths
import SchemaSdk.Web.Uri

/-!
# URLs of the web as addresses

Reading a URL of the web encodes or refuses nearly everything that no address may have. What is left
is in the names of hosts, which may have quotes and braces in them, and in the length. So the text of
a URL that was read is an address if it is not too long and its host has none of these signs.
-/
namespace SchemaSdk.Web

namespace Uri

variable {a : Seen} {c : Char} {s t : List Char}

/-! ## Authorities -/

/-- The characters that an authority is divided at, or that matter for how it is. -/
def dividers : List Char := [':', '[', ']', '@', '%']

theorem notMem_dividers (h : inAuthority c = true) : c ∉ dividers := by
  simp only [dividers, List.mem_cons, List.not_mem_nil, or_false]
  rintro (rfl | rfl | rfl | rfl | rfl) <;> exact absurd h (by decide)

theorem Seen.next_of_notMem (h : c ∉ dividers) (a : Seen) : a.next c =
    if inAuthority c then .ok { a with endsInUser := false } else .error .badCharacter := by
  simp only [dividers, List.mem_cons, List.not_mem_nil, or_false, not_or] at h
  obtain ⟨hcolon, hopen, hclose, huser, hpercent⟩ := h
  simp [next, hcolon, hopen, hclose, hpercent, beq_eq_false_iff_ne.mpr huser]

theorem Seen.next_colon (h : a.colons < maxColons) :
    a.next ':' = .ok { a with colons := a.colons + 1, endsInUser := false } := by
  simp [next, Nat.not_le_of_lt h]

theorem Seen.next_percent (a : Seen) :
    a.next '%' = .ok { a with percent := true, endsInUser := false } := rfl

/-- Texts without brackets and users: their colons are counted, and their percent signs noted. -/
theorem foldlM_next (h : ∀ c ∈ s, inAuthority c = true ∨ c = ':' ∨ c = '%')
    (hcolons : a.colons + s.count ':' ≤ maxColons) :
    ∃ e, s.foldlM Seen.next a = .ok { a with
      colons := a.colons + s.count ':'
      percent := a.percent || s.contains '%'
      endsInUser := e } := by
  induction s generalizing a with
  | nil => exact ⟨a.endsInUser, by simp [pure, Except.pure]⟩
  | cons c s ih =>
    obtain ⟨hc, hs⟩ := List.forall_mem_cons.mp h
    rcases hc with hc | rfl | rfl
    · have hne := notMem_dividers hc
      simp only [dividers, List.mem_cons, List.not_mem_nil, or_false, not_or] at hne
      rw [List.count_cons_of_ne (by tauto)] at hcolons ⊢
      obtain ⟨e, he⟩ := ih (a := { a with endsInUser := false }) hs hcolons
      refine ⟨e, ?_⟩
      rw [List.foldlM_cons, Seen.next_of_notMem (notMem_dividers hc), if_pos hc]
      refine he.trans ?_
      simp [Ne.symm hne.2.2.2.2]
    · rw [List.count_cons_self] at hcolons ⊢
      obtain ⟨e, he⟩ := ih (a := { a with colons := a.colons + 1, endsInUser := false }) hs
        (by dsimp only; omega)
      refine ⟨e, ?_⟩
      rw [List.foldlM_cons, Seen.next_colon (by omega)]
      refine he.trans ?_
      simp [Nat.add_assoc, Nat.add_comm 1]
    · rw [List.count_cons_of_ne (by decide)] at hcolons ⊢
      obtain ⟨e, he⟩ := ih (a := { a with percent := true, endsInUser := false }) hs hcolons
      refine ⟨e, ?_⟩
      rw [List.foldlM_cons, Seen.next_percent]
      refine he.trans ?_
      simp

/-- Plain characters change nothing. -/
theorem foldlM_next_of_inAuthority (h : ∀ c ∈ s, inAuthority c = true) (a : Seen)
    (hcolons : a.colons ≤ maxColons) :
    ∃ e, s.foldlM Seen.next a = .ok { a with endsInUser := e } := by
  have hcolon : ':' ∉ s := fun hmem => absurd (h _ hmem) (by decide)
  have hpercent : '%' ∉ s := fun hmem => absurd (h _ hmem) (by decide)
  have hcount := List.count_eq_zero_of_not_mem hcolon
  obtain ⟨e, he⟩ := foldlM_next (a := a) (fun c hc => .inl (h c hc)) (by rwa [hcount])
  refine ⟨e, he.trans ?_⟩
  simp [hcount, hpercent]

/-- A character that may not be in an authority is refused wherever it stands. -/
theorem isOk_foldlM_next_eq_false (hc : inAuthority c = false) (hne : c ∉ dividers) (hmem : c ∈ s)
    (a : Seen) : (s.foldlM Seen.next a).isOk = false := by
  induction s generalizing a with
  | nil => cases hmem
  | cons d s ih =>
    rw [List.foldlM_cons]
    rcases List.mem_cons.mp hmem with rfl | hmem
    · rw [Seen.next_of_notMem hne, hc]
      rfl
    · cases a.next d with
      | error e => rfl
      | ok b => exact ih hmem b

theorem Seen.endsInUser_of_next {b : Seen} (h : a.next c = .ok b) :
    b.endsInUser = (c == '@') := by
  unfold next at h
  dsimp only at h
  repeat' split at h
  all_goals cases h <;> rfl

/-- What ends in no mark of a user ends in no user. -/
theorem endsInUser_of_foldlM {b : Seen} (h : (s ++ [c]).foldlM Seen.next a = .ok b) :
    b.endsInUser = (c == '@') := by
  rw [List.foldlM_append] at h
  cases hs : s.foldlM Seen.next a with
  | error e =>
    rw [hs] at h
    cases h
  | ok a' =>
    rw [hs] at h
    exact Seen.endsInUser_of_next (a := a') ((bind_pure (a'.next c)).symm.trans h)

end Uri

/-! ## Hosts -/

namespace Host

theorem inAuthority_of_isAlphanum {c : Char} (h : c.isAlphanum = true) :
    Uri.inAuthority c = true := by
  rw [Uri.inAuthority, h, Bool.true_or]

theorem count_toDigits {base n : Nat} (hbase : 1 < base) (hmost : base ≤ 16) :
    (Nat.toDigits base n).count ':' = 0 :=
  List.count_eq_zero_of_not_mem fun hmem =>
    absurd (isAlphanum_of_mem_toDigits hbase hmost hmem) (by decide)

theorem piecesText_cons_cons (p q : Nat) (ps : List Nat) :
    piecesText (p :: q :: ps) = Nat.toDigits 16 p ++ ':' :: piecesText (q :: ps) := by
  simp [piecesText, List.intercalate]

/-- There is a colon between any two pieces. -/
theorem count_piecesText (ps : List Nat) : (piecesText ps).count ':' = ps.length - 1 := by
  induction ps with
  | nil => rfl
  | cons p ps ih =>
    cases ps with
    | nil =>
      rw [piecesText, List.map_singleton, List.intercalate_singleton,
        count_toDigits (by decide) (by decide)]
      rfl
    | cons q ps =>
      rw [piecesText_cons_cons, List.count_append, List.count_cons_self, ih,
        count_toDigits (by decide) (by decide)]
      simp

theorem zeros_le_length (ps : List Nat) : zeros ps ≤ ps.length := by
  fun_induction zeros ps with
  | case1 r ih => exact Nat.succ_le_succ ih
  | case2 => exact Nat.zero_le _

/-- Leaving out two pieces or more leaves no more colons than there are pieces. -/
theorem count_compressed_le {run : Nat} (hrun : 2 ≤ run) (before after : List Nat) :
    (compressed run before after).count ':' ≤ before.length + after.length := by
  fun_induction compressed run before after with
  | case1 before =>
    rw [count_piecesText]
    exact Nat.le_trans (Nat.sub_le _ _) (Nat.le_add_right _ _)
  | case2 before n r h =>
    have hlength := zeros_le_length (n :: r)
    rw [h] at hlength
    rw [List.count_append, List.count_append, count_piecesText, count_piecesText, List.length_drop]
    have hcolons : [':', ':'].count ':' = 2 := by decide
    omega
  | case3 before n r h ih =>
    refine Nat.le_trans ih ?_
    simp only [List.length_append, List.length_cons, List.length_nil]
    omega

/-- An address that was read has eight pieces. -/
theorem length_of_parseIpv6? {s : List Char} {ps : List Nat} (h : parseIpv6? s = some ps) :
    ps.length = 8 := by
  unfold parseIpv6? at h
  split at h
  · obtain ⟨qs, -, hqs⟩ := Option.bind_eq_some_iff.mp h
    split at hqs
    case isTrue hlength =>
      obtain rfl := Option.some.inj hqs
      simpa using (Bool.and_eq_true_iff.mp hlength).2
    case isFalse => cases hqs
  · split at h
    · cases h
    split at h
    case h_2 => cases h
    case h_1 xs ys hxs hys =>
      split at h
      case isTrue hlength =>
        obtain rfl := Option.some.inj h
        simp only [List.length_append, List.length_replicate]
        omega
      case isFalse => cases h

theorem length_of_parse {s : List Char} {ps : List Nat} (h : parse s = .ok (.ipv6 ps)) :
    ps.length = 8 := by
  unfold parse at h
  split at h
  · split at h
    · split at h
      case h_1 qs hqs =>
        cases h
        exact length_of_parseIpv6? hqs
      case h_2 => cases h
    · cases h
  split at h
  · cases h
  split at h
  · cases h
  split at h
  · split at h <;> cases h
  · cases h

/-- A name has none of the signs that no address may have. Other hosts never do. -/
def IsPlain (host : Host) : Prop :=
  ∀ name, host = .name name → ∀ c ∈ name, Uri.inAuthority c = true

/-- What numbers consist of that are written one after another. -/
theorem isAlphanum_or_of_mem_numbers {base : Nat} (hbase : 1 < base) (hmost : base ≤ 16)
    {ns : List Nat} {separator c : Char}
    (h : c ∈ [separator].intercalate (ns.map (Nat.toDigits base))) :
    c.isAlphanum = true ∨ c = separator := by
  rcases Text.mem_of_mem_intercalate h with hc | ⟨p, hp, hc⟩
  · exact .inr (List.mem_singleton.mp hc)
  · obtain ⟨n, -, rfl⟩ := List.mem_map.mp hp
    exact .inl (isAlphanum_of_mem_toDigits hbase hmost hc)

theorem isAlphanum_or_of_mem_piecesText {ps : List Nat} {c : Char} (h : c ∈ piecesText ps) :
    c.isAlphanum = true ∨ c = ':' :=
  isAlphanum_or_of_mem_numbers (by decide) (by decide) h

theorem isAlphanum_or_of_mem_compressed {run : Nat} {before after : List Nat} {c : Char}
    (h : c ∈ compressed run before after) : c.isAlphanum = true ∨ c = ':' := by
  fun_induction compressed run before after with
  | case1 before => exact isAlphanum_or_of_mem_piecesText h
  | case2 before n r hrun =>
    rcases List.mem_append.mp h with h | h
    · rcases List.mem_append.mp h with h | h
      · exact isAlphanum_or_of_mem_piecesText h
      · exact .inr (by simpa using h)
    · exact isAlphanum_or_of_mem_piecesText h
  | case3 before n r hrun ih => exact ih h

/-- What stands between the brackets of an address of version 6. -/
theorem exists_text_ipv6 {ps : List Nat} (h : ps.length = 8) :
    ∃ inner, (ipv6 ps).text = '[' :: inner ++ [']'] ∧
      (∀ c ∈ inner, c.isAlphanum = true ∨ c = ':') ∧ inner.count ':' ≤ Uri.maxColons := by
  refine ⟨_, rfl, ?_⟩
  split
  case isTrue =>
    refine ⟨fun c hc => isAlphanum_or_of_mem_piecesText hc, ?_⟩
    rw [count_piecesText, h]
    decide
  case isFalse hrun =>
    refine ⟨fun c hc => isAlphanum_or_of_mem_compressed hc, ?_⟩
    refine Nat.le_trans (count_compressed_le (Nat.le_of_not_lt hrun) _ _) ?_
    rw [h]
    decide

theorem mem_text_ipv4 {address : Nat} {c : Char} (h : c ∈ (ipv4 address).text) :
    c.isAlphanum = true ∨ c = '.' :=
  isAlphanum_or_of_mem_numbers (by decide) (by decide) h

/-- The text of a host that was read ends nothing before it and nothing after it. -/
theorem notMem_of_mem_text {s : List Char} {host : Host} {c : Char} (h : parse s = .ok host)
    (hc : c ∈ host.text) : c ∉ ['/', '?', '#', '@'] := by
  simp only [List.mem_cons, List.not_mem_nil, or_false]
  cases host with
  | name name =>
    obtain ⟨-, t, ht⟩ := exists_asciiName?_of_parse h
    have hforbidden := isForbidden_of_asciiName? ht c hc
    rintro (rfl | rfl | rfl | rfl) <;> exact absurd hforbidden (by decide)
  | ipv4 address =>
    rintro (rfl | rfl | rfl | rfl) <;> rcases mem_text_ipv4 hc with h | h <;>
      exact absurd h (by decide)
  | ipv6 ps =>
    obtain ⟨inner, htext, hchars, -⟩ := exists_text_ipv6 (length_of_parse h)
    simp only [htext, List.cons_append, List.mem_cons, List.mem_append, List.not_mem_nil,
      or_false] at hc
    rcases hc with rfl | hc | rfl
    · decide
    · rintro (rfl | rfl | rfl | rfl) <;> rcases hchars _ hc with h | h <;>
        exact absurd h (by decide)
    · decide

theorem text_ne_nil {s : List Char} {host : Host} (h : parse s = .ok host) : host.text ≠ [] := by
  cases host with
  | name name => exact (exists_asciiName?_of_parse h).1
  | ipv4 address => simp [text, List.intercalate]
  | ipv6 ps => simp [text]

end Host

namespace Uri

/-- A plain host is passed over, and its brackets are closed. -/
theorem foldlM_next_host {s : List Char} {host : Host} (h : Host.parse s = .ok host)
    (hplain : host.IsPlain) (e : Bool) :
    ∃ o e', host.text.foldlM Seen.next ⟨0, false, false, false, e⟩ =
      .ok ⟨0, o, o, false, e'⟩ := by
  cases host with
  | name name =>
    obtain ⟨e', he⟩ := foldlM_next_of_inAuthority (hplain name rfl) ⟨0, false, false, false, e⟩
      (Nat.zero_le _)
    exact ⟨false, e', he⟩
  | ipv4 address =>
    have hchars : ∀ c ∈ (Host.ipv4 address).text, inAuthority c = true := by
      intro c hc
      rcases Host.mem_text_ipv4 hc with hc | rfl
      · exact Host.inAuthority_of_isAlphanum hc
      · decide
    obtain ⟨e', he⟩ := foldlM_next_of_inAuthority hchars ⟨0, false, false, false, e⟩
      (Nat.zero_le _)
    exact ⟨false, e', he⟩
  | ipv6 ps =>
    obtain ⟨inner, htext, hchars, hcount⟩ := Host.exists_text_ipv6 (Host.length_of_parse h)
    obtain ⟨e', he⟩ := foldlM_next (s := inner) (a := ⟨0, true, false, false, false⟩)
      (fun c hc => (hchars c hc).imp Host.inAuthority_of_isAlphanum .inl) (by simpa using hcount)
    have hopen : Seen.next ⟨0, false, false, false, e⟩ '[' =
        .ok ⟨0, true, false, false, false⟩ := rfl
    refine ⟨true, false, ?_⟩
    rw [htext, List.cons_append, List.foldlM_cons, hopen]
    refine (List.foldlM_append ..).trans ?_
    rw [he]
    rfl

end Uri

/-! ## URLs as reading leaves them -/

theorem forall_mem_percentEncode {encoded : Char → Bool} (hpercent : encoded '%' = false)
    (halphanum : ∀ c : Char, c.isAlphanum = true → encoded c = false) {s : List Char} :
    ∀ c ∈ percentEncode encoded s, encoded c = false := by
  intro c hc
  rcases of_mem_percentEncode hc with rfl | hc | ⟨-, hc⟩
  · exact hpercent
  · exact halphanum c hc
  · exact hc

namespace Url

variable {u : Url} {text : String} {c : Char}

theorem encodedInUser_of_isAlphanum (h : c.isAlphanum = true) : encodedInUser c = false :=
  of_isAlphanum (P := (encodedInUser · = false)) (by decide) h

theorem encodedInQuery_of_isAlphanum (h : c.isAlphanum = true) : encodedInQuery true c = false :=
  of_isAlphanum (P := (encodedInQuery true · = false)) (by decide) h

/-- A URL of the web with its parts as reading leaves them: encoded where they have to be, a host
that was read, and settled segments. -/
structure Normal (u : Url) : Prop where
  scheme : u.scheme ∈ [['h', 't', 't', 'p'], ['h', 't', 't', 'p', 's']]
  username : ∀ c ∈ u.username, encodedInUser c = false
  password : ∀ c ∈ u.password, encodedInUser c = false
  host : ∃ s host, Host.parse s = .ok host ∧ u.host = some host
  path : ∃ parts, u.path = .segments parts ∧ parts ≠ [] ∧ ∀ s ∈ parts, Settled u.scheme s
  query : ∀ q ∈ u.query, ∀ c ∈ q, encodedInQuery true c = false

theorem normal_of_parse (h : parse text = .ok u)
    (hscheme : u.scheme ∈ [['h', 't', 't', 'p'], ['h', 't', 't', 'p', 's']]) : u.Normal := by
  obtain ⟨hspecial, hfile, -⟩ := special_of_web hscheme
  have hpath := exists_settled_of_parse h hscheme
  obtain ⟨rest, v, query, fragment, hmiddle, rfl⟩ := parse_eq_ok h
  obtain ⟨authority, path, w, hw, hv⟩ := parseMiddle_eq_ok hspecial hfile hmiddle
  obtain ⟨-, ⟨name, hname⟩, ⟨password, hpassword⟩, t, host, hhost, hwhost⟩ :=
    parseAuthority_eq_ok hw
  rw [if_pos hspecial] at hhost
  have hencoded : ∀ s, ∀ c ∈ percentEncode encodedInUser s, encodedInUser c = false :=
    fun s => forall_mem_percentEncode (by decide) fun _ => encodedInUser_of_isAlphanum
  exact {
    scheme := hscheme
    username := by
      rw [hv]
      exact hname ▸ hencoded name
    password := by
      rw [hv]
      exact hpassword ▸ hencoded password
    host := ⟨t, host, hhost, by rw [hv]; exact hwhost⟩
    path := hpath
    query := by
      intro q hq
      obtain ⟨s, -, rfl⟩ := Option.map_eq_some_iff.mp hq
      rw [hspecial]
      exact forall_mem_percentEncode (by decide) fun _ => encodedInQuery_of_isAlphanum }

end Url

/-! ## Texts of URLs -/

namespace Uri

open Url

variable {u : Url} {c : Char} {host : Host}

theorem ascii_of_isOutsideText (h : isOutsideText c = false) : c.toNat < 0x80 := by
  simp only [isOutsideText, Bool.or_eq_false_iff, decide_eq_false_iff_not] at h
  omega

theorem ascii_of_encodedInPath (h : encodedInPath c = false) : c.toNat < 0x80 :=
  ascii_of_isOutsideText (Bool.or_eq_false_iff.mp (Bool.or_eq_false_iff.mp h).1).1

theorem inAuthority_or_of_encodedInUser (h : encodedInUser c = false) :
    inAuthority c = true ∨ c = ':' ∨ c = '%' :=
  Text.forall_ascii
    (P := fun c => encodedInUser c = false → inAuthority c = true ∨ c = ':' ∨ c = '%')
    (by decide) c (ascii_of_encodedInPath (encodedInPath_of_encodedInUser h)) h

theorem inPath_of_encodedInPath (h : encodedInPath c = false) : inPath c = true :=
  Text.forall_ascii (P := fun c => encodedInPath c = false → inPath c = true) (by decide) c
    (ascii_of_encodedInPath h) h

theorem inQuery_of_encodedInQuery (h : encodedInQuery true c = false) : inQuery c = true := by
  have hascii := ascii_of_isOutsideText
    (Bool.or_eq_false_iff.mp (Bool.or_eq_false_iff.mp h).1).1
  exact Text.forall_ascii (P := fun c => encodedInQuery true c = false → inQuery c = true)
    (by decide) c hascii h

/-- Users are passed over. -/
theorem foldlM_next_userText (hname : ∀ c ∈ u.username, encodedInUser c = false)
    (hpassword : ∀ c ∈ u.password, encodedInUser c = false) :
    ∃ e, u.userText.foldlM Seen.next ⟨0, false, false, false, false⟩ =
      .ok ⟨0, false, false, false, e⟩ := by
  have hcolon : ∀ {s : List Char}, (∀ c ∈ s, encodedInUser c = false) → s.count ':' = 0 :=
    fun h => List.count_eq_zero_of_not_mem fun hmem => absurd (h _ hmem) (by decide)
  rw [userText]
  split
  · exact ⟨false, rfl⟩
  have hcount : (u.username ++ if u.password.isEmpty then [] else ':' :: u.password).count ':' ≤
      maxColons := by
    rw [List.count_append, hcolon hname]
    split
    · decide
    · rw [List.count_cons_self, hcolon hpassword]
      decide
  have hchars : ∀ c ∈ u.username ++ (if u.password.isEmpty then [] else ':' :: u.password),
      inAuthority c = true ∨ c = ':' ∨ c = '%' := by
    refine List.forall_mem_append.mpr ⟨fun c hc => inAuthority_or_of_encodedInUser (hname c hc), ?_⟩
    split
    · exact List.forall_mem_nil _
    · exact List.forall_mem_cons.mpr ⟨.inr (.inl rfl),
        fun c hc => inAuthority_or_of_encodedInUser (hpassword c hc)⟩
  obtain ⟨e, he⟩ := foldlM_next (a := ⟨0, false, false, false, false⟩) hchars (by simpa using hcount)
  refine ⟨true, ?_⟩
  rw [List.foldlM_append, he]
  rfl

/-- How a port is written behind a host. -/
def portChars : Option Nat → List Char
  | some port => ':' :: Nat.toDigits 10 port
  | none => []

theorem foldlM_next_port (o e : Bool) (port : Option Nat) :
    ∃ n ≤ 1, ∃ e', (portChars port).foldlM Seen.next ⟨0, o, o, false, e⟩ =
      .ok ⟨n, o, o, false, e'⟩ := by
  cases port with
  | none => exact ⟨0, by decide, e, rfl⟩
  | some port =>
    have hdigits : ∀ c ∈ Nat.toDigits 10 port, inAuthority c = true := fun c hc =>
      Host.inAuthority_of_isAlphanum (isAlphanum_of_mem_toDigits (by decide) (by decide) hc)
    obtain ⟨e', he⟩ := foldlM_next_of_inAuthority hdigits ⟨1, o, o, false, false⟩
      (show 1 ≤ maxColons by decide)
    refine ⟨1, by decide, e', ?_⟩
    rw [portChars, List.foldlM_cons, Seen.next_colon (show 0 < maxColons by decide)]
    exact he

theorem isOk_checkAuthority {A : List Char} {b : Seen}
    (h : A.foldlM Seen.next ⟨0, false, false, false, false⟩ = .ok b) :
    (checkAuthority A).isOk =
      !(b.opened != b.closed || 1 < b.colons || b.endsInUser || b.percent) := by
  rw [checkAuthority, h]
  dsimp only [bind, Except.bind]
  split
  case isTrue hb => rw [hb]; rfl
  case isFalse hb => rw [Bool.eq_false_iff.mpr hb]; rfl

theorem isOk_foldlM_of_checkAuthority {A : List Char} (h : (checkAuthority A).isOk = true) :
    (A.foldlM Seen.next ⟨0, false, false, false, false⟩).isOk = true := by
  rw [checkAuthority] at h
  cases hfold : A.foldlM Seen.next ⟨0, false, false, false, false⟩ with
  | error e =>
    rw [hfold] at h
    cases h
  | ok b => rfl

theorem notMem_of_mem_portChars {port : Option Nat} (hc : c ∈ portChars port) :
    c ∉ ['/', '?', '#', '@'] := by
  simp only [List.mem_cons, List.not_mem_nil, or_false]
  cases port with
  | none => cases hc
  | some port =>
    rcases List.mem_cons.mp hc with rfl | hc
    · decide
    · have halphanum := isAlphanum_of_mem_toDigits (by decide) (by decide) hc
      rintro (rfl | rfl | rfl | rfl) <;> exact absurd halphanum (by decide)

/-- The authority of a URL is one of an address if its host is plain. -/
theorem isOk_checkAuthority_iff {s : List Char} (h : u.Normal) (hs : Host.parse s = .ok host) :
    (checkAuthority (u.userText ++ (host.text ++ portChars u.port))).isOk = true ↔
      host.IsPlain := by
  obtain ⟨e, huser⟩ := foldlM_next_userText h.username h.password
  constructor
  · rintro hok name rfl c hc
    by_contra hrefused
    have hdividers : c ∉ dividers := by
      obtain ⟨-, t, ht⟩ := Host.exists_asciiName?_of_parse hs
      have hforbidden := Host.isForbidden_of_asciiName? ht c hc
      simp only [dividers, List.mem_cons, List.not_mem_nil, or_false]
      rintro (rfl | rfl | rfl | rfl | rfl) <;> exact absurd hforbidden (by decide)
    have hfold := isOk_foldlM_next_eq_false (Bool.eq_false_iff.mpr hrefused) hdividers
      (List.mem_append_right u.userText (List.mem_append_left (portChars u.port) hc))
      ⟨0, false, false, false, false⟩
    exact Bool.false_ne_true (hfold.symm.trans (isOk_foldlM_of_checkAuthority hok))
  · intro hplain
    obtain ⟨o, e', hhost⟩ := foldlM_next_host hs hplain e
    obtain ⟨n, hn, e'', hport⟩ := foldlM_next_port o e' u.port
    have hfold : (u.userText ++ (host.text ++ portChars u.port)).foldlM Seen.next
        ⟨0, false, false, false, false⟩ = .ok ⟨n, o, o, false, e''⟩ := by
      rw [List.foldlM_append, huser]
      refine (List.foldlM_append ..).trans ?_
      rw [hhost]
      exact hport
    have hend : e'' = false := by
      rcases List.eq_nil_or_concat (host.text ++ portChars u.port) with hnil | ⟨init, c, hlast⟩
      · exact absurd (List.append_eq_nil_iff.mp hnil).1 (Host.text_ne_nil hs)
      · have hc : c ∈ host.text ++ portChars u.port := by simp [hlast]
        have hne : c ∉ ['/', '?', '#', '@'] := by
          rcases List.mem_append.mp hc with hc | hc
          · exact Host.notMem_of_mem_text hs hc
          · exact notMem_of_mem_portChars hc
        rw [hlast, List.concat_eq_append, ← List.append_assoc] at hfold
        have hmark := endsInUser_of_foldlM hfold
        simp only [List.mem_cons, not_or] at hne
        exact hmark.trans (beq_eq_false_iff_ne.mpr hne.2.2.2.1)
    rw [isOk_checkAuthority hfold, hend]
    simp [hn]

/-- A part of a URL behind its mark, if there is one. -/
def marked (mark : Char) : Option (List Char) → List Char
  | some s => mark :: s
  | none => []

/-- The fragment is left out, and the rest is cut at the mark of the query. -/
theorem checkPath_append {path : List Char} {query : Option (List Char)}
    (hhash : '#' ∉ path) (hquestion : '?' ∉ path) (hquery : ∀ q ∈ query, '#' ∉ q)
    (fragment : Option (List Char)) :
    checkPath (path ++ marked '?' query ++ marked '#' fragment) =
      if path.all inPath && (query.getD []).all inQuery then .ok () else .error .badCharacter := by
  have hcut : ∀ {s : List Char}, '#' ∉ s →
      (s ++ marked '#' fragment).takeWhile (· != '#') = s := by
    intro s hs
    cases fragment with
    | none =>
      rw [marked, List.append_nil]
      exact congrArg Prod.fst (splitAtChar_of_notMem hs)
    | some f => exact congrArg Prod.fst (splitAtChar_append_cons hs f)
  rw [checkPath]
  cases query with
  | none => rw [marked, List.append_nil, hcut hhash, splitAtChar_of_notMem hquestion]
  | some q =>
    have hq := hquery q rfl
    rw [marked, hcut (by simpa using ⟨hhash, hq⟩), splitAtChar_append_cons hquestion]

/-- What follows the authority of a URL may follow that of an address. -/
theorem checkPath_of_normal (h : u.Normal) :
    checkPath (pathText u.path ++ marked '?' u.query ++ marked '#' u.fragment) = .ok () := by
  obtain ⟨parts, hpath, -, hsettled⟩ := h.path
  have hchars : ∀ c ∈ pathText u.path, encodedInPath c = false := by
    rw [hpath]
    intro c hc
    obtain ⟨s, hs, hc⟩ := List.mem_flatMap.mp hc
    rcases List.mem_cons.mp hc with rfl | hc
    · decide
    · exact (hsettled s hs).plain c hc
  have hinQuery : (u.query.getD []).all inQuery = true := by
    rw [List.all_eq_true]
    intro c hc
    cases hquery : u.query with
    | none =>
      rw [hquery] at hc
      cases hc
    | some q =>
      rw [hquery] at hc
      exact inQuery_of_encodedInQuery (h.query q hquery c hc)
  have hinPath : (pathText u.path).all inPath = true :=
    List.all_eq_true.mpr fun c hc => inPath_of_encodedInPath (hchars c hc)
  rw [checkPath_append (fun hmem => absurd (hchars _ hmem) (by decide))
    (fun hmem => absurd (hchars _ hmem) (by decide))
    (fun q hq hmem => absurd (h.query q hq _ hmem) (by decide)), hinPath, hinQuery]
  rfl

/-- A text with a scheme, slashes and an authority before its path is checked by these parts. -/
theorem isOk_check_iff {text : String} {scheme authority rest : List Char}
    (htext : text.toList = scheme ++ ':' :: '/' :: '/' :: (authority ++ '/' :: rest))
    (hscheme : ∀ c ∈ scheme, inScheme c = true) (hshort : scheme.length ≤ maxSchemeLength)
    (hauthority : ∀ c ∈ authority, c ∉ ['/', '?', '#']) (hne : authority ≠ []) :
    (check text).isOk = true ↔ text.utf8ByteSize ≤ maxBytes ∧
      (checkAuthority authority).isOk = true ∧ (checkPath ('/' :: rest)).isOk = true := by
  have hcut : text.toList.takeWhile inScheme = scheme := by
    rw [htext, List.takeWhile_append_of_pos hscheme, List.takeWhile_cons_of_neg (by decide),
      List.append_nil]
  have hstop : (authority ++ '/' :: rest).takeWhile (fun c => !(['/', '?', '#'].contains c)) = authority := by
    rw [List.takeWhile_append_of_pos fun c hc => by simpa using hauthority c hc,
      List.takeWhile_cons_of_neg (by decide), List.append_nil]
  have hempty : authority.isEmpty = false := by simpa using hne
  unfold check
  dsimp only
  rw [hcut, htext, List.drop_left]
  simp only [hstop, List.drop_left, hempty, if_neg (Nat.not_lt_of_le hshort)]
  by_cases hsize : maxBytes < text.utf8ByteSize
  · rw [if_pos hsize]
    refine ⟨fun h => ?_, fun h => absurd h.1 (Nat.not_le_of_lt hsize)⟩
    cases h
  · rw [if_neg hsize]
    cases checkAuthority authority with
    | error e =>
      refine ⟨fun h => ?_, fun h => ?_⟩
      · cases h
      · cases h.2.1
    | ok _ => exact ⟨fun h => ⟨Nat.le_of_not_lt hsize, rfl, h⟩, fun h => h.2.2⟩

theorem of_mem_userText (h : u.Normal) (hc : c ∈ u.userText) :
    encodedInUser c = false ∨ c = ':' ∨ c = '@' := by
  rw [userText] at hc
  split at hc
  · cases hc
  rcases List.mem_append.mp hc with hc | hc
  · rcases List.mem_append.mp hc with hc | hc
    · exact .inl (h.username c hc)
    · split at hc
      · cases hc
      rcases List.mem_cons.mp hc with rfl | hc
      · exact .inr (.inl rfl)
      · exact .inl (h.password c hc)
  · exact .inr (.inr (List.mem_singleton.mp hc))

theorem notMem_of_mem_userText (h : u.Normal) (hc : c ∈ u.userText) : c ∉ ['/', '?', '#'] := by
  simp only [List.mem_cons, List.not_mem_nil, or_false]
  rintro (rfl | rfl | rfl) <;> rcases of_mem_userText h hc with h | h | h <;>
    exact absurd h (by decide)

theorem authorityText_of_host (hhost : u.host = some host) :
    u.authorityText = '/' :: '/' :: (u.userText ++ (host.text ++ portChars u.port)) := by
  rw [authorityText, hhost]
  cases u.port <;> simp [portChars]

theorem toList_text (u : Url) : u.text.toList = u.scheme ++ ':' ::
    (u.authorityText ++ (pathText u.path ++ marked '?' u.query ++ marked '#' u.fragment)) := by
  rw [Url.text, String.toList_ofList]
  cases u.query <;> cases u.fragment <;> simp [marked]

/-- **Which URLs of the web are addresses.** The text of a URL whose parts are as reading leaves
them is an address exactly if it is not too long and its host, if it is a name, has only letters,
digits and signs that an authority may have. -/
theorem isOk_check_text_iff (h : u.Normal) : (check u.text).isOk = true ↔
    u.text.utf8ByteSize ≤ maxBytes ∧
      ∀ name, u.host = some (.name name) → ∀ c ∈ name, inAuthority c = true := by
  obtain ⟨s, host, hs, hhost⟩ := h.host
  obtain ⟨parts, hpath, hne, -⟩ := h.path
  obtain ⟨first, more, rfl⟩ := List.exists_cons_of_ne_nil hne
  have hscheme : (∀ c ∈ u.scheme, inScheme c = true) ∧ u.scheme.length ≤ maxSchemeLength := by
    have hweb := h.scheme
    simp only [List.mem_cons, List.not_mem_nil, or_false] at hweb
    rcases hweb with hweb | hweb <;> rw [hweb, ← List.all_eq_true] <;> decide
  have hauthority : ∀ c ∈ u.userText ++ (host.text ++ portChars u.port),
      c ∉ ['/', '?', '#'] := by
    have hfewer : ∀ {c : Char}, c ∉ ['/', '?', '#', '@'] → c ∉ ['/', '?', '#'] :=
      fun hc hmem => hc (List.mem_append_left ['@'] hmem)
    intro c hc
    rcases List.mem_append.mp hc with hc | hc
    · exact notMem_of_mem_userText h hc
    rcases List.mem_append.mp hc with hc | hc
    · exact hfewer (Host.notMem_of_mem_text hs hc)
    · exact hfewer (notMem_of_mem_portChars hc)
  have hplain : host.IsPlain ↔
      ∀ name, u.host = some (.name name) → ∀ c ∈ name, inAuthority c = true := by
    simp only [hhost, Option.some.injEq, Host.IsPlain]
  have htext := toList_text u
  have hrest := congrArg Except.isOk (checkPath_of_normal h)
  -- The path starts with the slash that ends the authority.
  rw [authorityText_of_host hhost, hpath] at htext
  rw [hpath] at hrest
  rw [isOk_check_iff htext hscheme.1 hscheme.2 hauthority (by simp [Host.text_ne_nil hs]),
    isOk_checkAuthority_iff h hs, hplain]
  exact ⟨fun h => ⟨h.1, h.2.1⟩, fun h => ⟨h.1, h.2, hrest⟩⟩

end Uri
end SchemaSdk.Web
