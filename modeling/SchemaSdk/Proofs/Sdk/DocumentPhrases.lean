import SchemaSdk.Proofs.Schema.Parsed
import SchemaSdk.Proofs.Sdk.DocumentGrammar
import SchemaSdk.Proofs.Text.Words

/-!
# Texts that write phrases

A text writes a phrase if its tokens are read as that phrase and leave as many brackets open as
there were before, whatever stands around it. A name would go on with letters and digits that
follow, so these must not follow. Such texts are put together as the phrases are.
-/
namespace SchemaSdk.Executable

open SchemaSdk.Schema

/-! ## Tokens of a text -/

/-- The tokens of a text, wherever it stands, as long as there is room for all brackets that it
could open. -/
def Scans (s : List Char) (ts : List Token) : Prop :=
  ∀ fuel room p, s.length < fuel → s.length ≤ room →
    (scanFrom fuel room p s).fault = none ∧ (scanFrom fuel room p s).list.map (·.token) = ts

/-- Whether a character may stand between items and is skipped there. -/
def isSeparator (c : Char) : Bool := c == ' ' || c == ','

theorem eq_or_eq_of_isSeparator {c : Char} (h : isSeparator c = true) : c = ' ' ∨ c = ',' := by
  simpa [isSeparator] using h

namespace Scans

variable {s r : List Char} {ts : List Token} {c : Char} {t : Token}

theorem tokens?_eq {s : String} (h : Scans s.toList ts) : tokens? s = some ts := by
  obtain ⟨hfault, hlist⟩ :=
    h (s.toList.length + 1) s.toList.length ⟨1, 1⟩ (by omega) (Nat.le_refl _)
  simp only [tokens?, hfault, hlist, Option.isNone_none, if_true]

theorem nil : Scans [] [] := by
  intro fuel room p hfuel _
  cases fuel with
  | zero => exact ⟨rfl, rfl⟩
  | succ fuel => exact ⟨rfl, rfl⟩

theorem cons_blank (hc : isSeparator c = true) (h : Scans s ts) : Scans (c :: s) ts := by
  intro fuel room p hfuel hroom
  rw [List.length_cons] at hfuel hroom
  cases fuel with
  | zero => omega
  | succ fuel =>
    have hskip : skipBlanks false p (c :: s) = skipBlanks false (p.right 1) s := by
      rcases eq_or_eq_of_isSeparator hc with rfl | rfl
      · rfl
      · rfl
    have hscan : scanFrom (fuel + 1) room p (c :: s) = scanFrom (fuel + 1) room (p.right 1) s := by
      rw [scanFrom, hskip, scanFrom]
    rw [hscan]
    exact h (fuel + 1) room (p.right 1) (by omega) (by omega)

/-- Where a token starts it comes before those of the text behind it. -/
theorem cons_token {source : List Char} (hskip : ∀ p, skipBlanks false p (c :: r) = (p, c :: r))
    (hscan : scanToken c r = .ok (t, source, s)) (hlen : s.length ≤ r.length) (h : Scans s ts) :
    Scans (c :: r) (t :: ts) := by
  intro fuel room p hfuel hroom
  rw [List.length_cons] at hfuel hroom
  cases fuel with
  | zero => omega
  | succ fuel =>
    have hdepth : (t.opens && room == 0) = false := by
      have hpos : (room == 0) = false := beq_eq_false_iff_ne.mpr (by omega)
      rw [hpos, Bool.and_false]
    have hroom' : s.length ≤
        (if t.opens then room - 1 else if t.closes then room + 1 else room) := by
      split_ifs
      · omega
      · omega
      · omega
    obtain ⟨hfault, hlist⟩ := h fuel _ (p.past source) (by omega) hroom'
    simp only [scanFrom, hskip, hscan, hdepth, Bool.false_eq_true, if_false, List.map_cons]
    exact ⟨hfault, congrArg (t :: ·) hlist⟩

theorem mark (m : Mark) (h : Scans s ts) : Scans (m.text.toList ++ s) (.mark m :: ts) := by
  have hone : ∀ {c : Char}, Mark.ofChar? c = some m →
      (∀ p, skipBlanks false p (c :: s) = (p, c :: s)) → Scans (c :: s) (.mark m :: ts) := by
    intro c hc hskip
    have hscan : scanToken c s = .ok (.mark m, [c], s) := by simp only [scanToken, hc]
    exact cons_token hskip hscan (Nat.le_refl _) h
  cases m with
  | ellipsis =>
    have hscan : scanToken '.' ('.' :: '.' :: s) = .ok (.mark .ellipsis, ['.', '.', '.'], s) := rfl
    exact cons_token (fun _ => rfl) hscan (Nat.le_add_right _ 2) h
  | _ => exact hone rfl fun _ => rfl

end Scans

/-- No name goes on with the first character of the text. -/
def StartsApart (s : List Char) : Prop := s.head?.all (!isNamePart ·) = true

theorem StartsApart.append {s r : List Char} (hs : StartsApart s) (hr : StartsApart r) :
    StartsApart (s ++ r) := by
  cases s with
  | nil => exact hr
  | cons c s => exact hs

/-- Characters of a kind that has no blanks are not skipped. -/
theorem skipBlanks_eq {P : Char → Bool}
    (hP : ['#', '\n', '\t', ' ', ',', '\r', '\ufeff'].all (!P ·) = true) {c : Char}
    (hc : P c = true) (p : Position) (r : List Char) :
    skipBlanks false p (c :: r) = (p, c :: r) := by
  have hne : ∀ d ∈ ['#', '\n', '\t', ' ', ',', '\r', '\ufeff'], c ≠ d := by
    rintro d hd rfl
    have hno := List.all_eq_true.mp hP c hd
    rw [hc] at hno
    cases hno
  simp only [List.forall_mem_cons] at hne
  obtain ⟨hhash, hfeed, htab, hspace, hcomma, hreturn, hmark, _⟩ := hne
  simp only [skipBlanks, Bool.false_eq_true, if_false, hhash, hfeed, htab, hspace, hcomma, hreturn,
    hmark, or_self]

/-- Characters of a kind that has no marks are none. -/
theorem ofChar?_eq_none {P : Char → Bool}
    (hP : "()[]\x7b\x7d!$:=@|&".toList.all (!P ·) = true) {c : Char} (hc : P c = true) :
    Mark.ofChar? c = none := by
  have hne : c ∉ "()[]\x7b\x7d!$:=@|&".toList := by
    intro hmem
    have hno := List.all_eq_true.mp hP c hmem
    rw [hc] at hno
    cases hno
  unfold Mark.ofChar?
  split <;> first | rfl | exact absurd (by decide) hne

/-- A name is scanned up to where it does not go on. -/
theorem exists_scanToken_name (n : Name) {s : List Char} (hs : StartsApart s) :
    ∃ c r, n.text.toList ++ s = c :: r ∧ (∀ p, skipBlanks false p (c :: r) = (p, c :: r)) ∧
      scanToken c r = .ok (.name n, n.text.toList, s) := by
  obtain ⟨text, hspells⟩ := n
  cases hchars : text.toList with
  | nil =>
    rw [hchars] at hspells
    cases hspells
  | cons c r =>
    have hspells' := hspells
    rw [hchars, spellsName, Bool.and_eq_true] at hspells'
    obtain ⟨hc, hr⟩ := hspells'
    have hfollows : s.takeWhile isNamePart = [] ∧ s.dropWhile isNamePart = s := by
      cases s with
      | nil => exact ⟨rfl, rfl⟩
      | cons d s =>
        have hd : isNamePart d = false := by simpa [StartsApart] using hs
        exact ⟨List.takeWhile_cons_of_neg (by simp [hd]), List.dropWhile_cons_of_neg (by simp [hd])⟩
    have hparts := List.all_eq_true.mp hr
    have htake : (r ++ s).takeWhile isNamePart = r := by
      rw [List.takeWhile_append_of_pos hparts, hfollows.1, List.append_nil]
    have hdrop : (r ++ s).dropWhile isNamePart = s := by
      rw [List.dropWhile_append_of_pos hparts, hfollows.2]
    have hname : Name.ofChars c r hc hr = ⟨text, hspells⟩ := by
      simp only [Name.ofChars, ← hchars, String.ofList_toList]
    have hdot : c ≠ '.' := by
      rintro rfl
      cases hc
    have hmark : Mark.ofChar? c = none := ofChar?_eq_none (P := isNameStart) rfl hc
    refine ⟨c, r ++ s, rfl, fun p => skipBlanks_eq (P := isNameStart) rfl hc p _, ?_⟩
    simp only [scanToken, hmark, if_neg hdot, dif_pos hc, htake, hdrop, hname]

theorem Scans.name (n : Name) {s : List Char} {ts : List Token} (hs : StartsApart s)
    (h : Scans s ts) : Scans (n.text.toList ++ s) (.name n :: ts) := by
  obtain ⟨c, r, hchars, hskip, hscan⟩ := exists_scanToken_name n hs
  have hlen : s.length ≤ r.length := by
    have hname : n.text.toList ≠ [] := by
      intro hnil
      have hspells := n.spells
      rw [hnil] at hspells
      cases hspells
    have hpos := List.length_pos_of_ne_nil hname
    have hlength := congrArg List.length hchars
    rw [List.length_append, List.length_cons] at hlength
    omega
  rw [hchars]
  exact cons_token hskip hscan hlen h

theorem startsApart_mark (m : Mark) (s : List Char) : StartsApart (m.text.toList ++ s) := by
  cases m <;> rfl

theorem startsApart_mark_append (m : Mark) (s : String) : StartsApart (m.text ++ s).toList := by
  rw [String.toList_append]
  exact startsApart_mark m s.toList

theorem startsApart_space (s : String) : StartsApart (" " ++ s).toList := by
  rw [String.toList_append]
  rfl

/-! ## Brackets -/

theorem balanced_of_opens {t : Token} (h : t.opens = true) (stack ts : List Token) :
    balanced stack (t :: ts) = balanced (t :: stack) ts := by
  simp only [balanced, h, if_true]

/-- A token that closes the last open bracket leaves the others open. -/
theorem balanced_of_closes {t u : Token} (h : closes t u = true) (stack ts : List Token) :
    balanced (t :: stack) (u :: ts) = balanced stack ts := by
  obtain ⟨hopens, hcloses⟩ : u.opens = false ∧ u.closes = true := by
    unfold closes at h
    split at h
    · exact ⟨rfl, rfl⟩
    · exact ⟨rfl, rfl⟩
    · exact ⟨rfl, rfl⟩
    · cases h
  simp only [balanced, hopens, hcloses, h, Bool.false_eq_true, if_false, if_true, Bool.true_and]

theorem balanced_of_neither {t : Token} (hopens : t.opens = false) (hcloses : t.closes = false)
    (stack ts : List Token) : balanced stack (t :: ts) = balanced stack ts := by
  simp only [balanced, hopens, hcloses, Bool.false_eq_true, if_false]

/-! ## Phrases of a text -/

/-- The tokens that a text writes for a phrase. Before any others they are read as the phrase and
close just the brackets that they open. -/
structure Spells (ts : List Token) (p : Phrase) (s : String) : Prop where
  scans : ∀ {r us}, StartsApart r → Scans r us → Scans (s.toList ++ r) (ts ++ us)
  reads : ∀ r, Reads p (ts ++ r) r
  balances : ∀ stack r, balanced stack (ts ++ r) = balanced stack r

/-- The text writes the phrase. -/
def Writes (p : Phrase) (s : String) : Prop := ∃ ts, Spells ts p s

namespace Writes

variable {p q : Phrase} {ps : List Phrase} {s r : String}

theorem isDocument (h : Writes (.symbol .document) s) : IsDocument s := by
  obtain ⟨ts, h⟩ := h
  have hscans := h.scans (r := []) rfl .nil
  have hreads := h.reads []
  have hbalanced := h.balances [] []
  rw [List.append_nil] at hreads hbalanced
  rw [List.append_nil, List.append_nil] at hscans
  exact ⟨ts, hscans.tokens?_eq, hreads, hbalanced⟩

/-- A phrase that reads whatever another one reads is written by the same texts. -/
theorem of_reads (hpq : ∀ ts us, Reads p ts us → Reads q ts us) (h : Writes p s) : Writes q s := by
  obtain ⟨ts, h⟩ := h
  exact ⟨ts, h.scans, fun r => hpq _ _ (h.reads r), h.balances⟩

theorem symbol {x : Symbol} (h : Writes x.rule s) : Writes (.symbol x) s :=
  h.of_reads fun _ _ => .symbol

theorem one (hmem : p ∈ ps) (h : Writes p s) : Writes (.one ps) s :=
  h.of_reads fun _ _ => .one hmem

theorem optional (h : Writes p s) : Writes p.optional s := h.one (by simp)

theorem many (h : Writes p.some s) : Writes (.many p) s := by
  refine h.of_reads fun ts us hreads => ?_
  cases hreads with
  | cons hp hps =>
    cases hps with
    | cons hmany hnil =>
      cases hnil
      exact .more hp hmany

/-- The last part of a phrase that is written, before others that may be missing. -/
theorem last (hps : ∀ r, Reads (.all ps) r r) (h : Writes p s) : Writes (.all (p :: ps)) s :=
  h.of_reads fun _ us hreads => .cons hreads (hps us)

theorem once (h : Writes p s) : Writes p.some s := h.last fun r => .cons (.done p r) (.nil r)

theorem empty (h : ∀ r, Reads p r r) : Writes p "" :=
  ⟨[], fun _ hus => hus, h, fun _ _ => rfl⟩

theorem name (hs : IsName s) (h : ∀ n : Name, n.text = s → ∀ r, Reads p (.name n :: r) r) :
    Writes p s :=
  ⟨[.name ⟨s, hs⟩], Scans.name ⟨s, hs⟩, h _ rfl, balanced_of_neither rfl rfl⟩

theorem blank (hr : r.toList.all isSeparator = true) (h : Writes p s) : Writes p (r ++ s) := by
  obtain ⟨ts, h⟩ := h
  refine ⟨ts, fun {rest us} hrest hus => ?_, h.reads, h.balances⟩
  rw [String.toList_append, List.append_assoc]
  generalize r.toList = cs at hr
  induction cs with
  | nil => exact h.scans hrest hus
  | cons c cs ih =>
    rw [List.all_cons, Bool.and_eq_true] at hr
    exact (ih hr.2).cons_blank hr.1

theorem space (h : Writes p s) : Writes p (" " ++ s) := h.blank rfl

theorem append_space (h : Writes p s) : Writes p (s ++ " ") := by
  obtain ⟨ts, h⟩ := h
  refine ⟨ts, fun {rest us} _ hus => ?_, h.reads, h.balances⟩
  rw [String.toList_append, List.append_assoc]
  exact h.scans rfl (hus.cons_blank rfl)

theorem cons (hs : Writes p s) (hr : Writes (.all ps) r) (hapart : StartsApart r.toList) :
    Writes (.all (p :: ps)) (s ++ r) := by
  obtain ⟨ts, hs⟩ := hs
  obtain ⟨us, hr⟩ := hr
  refine ⟨ts ++ us, fun hrest hvs => ?_, fun rest => ?_, fun stack rest => ?_⟩
  · rw [String.toList_append, List.append_assoc, List.append_assoc]
    exact hs.scans (hapart.append hrest) (hr.scans hrest hvs)
  · rw [List.append_assoc]
    exact .cons (hs.reads _) (hr.reads rest)
  · rw [List.append_assoc, hs.balances, hr.balances]

/-- A part of a phrase that may be missing. -/
theorem skip (hp : ∀ r, Reads p r r) (h : Writes (.all ps) s) : Writes (.all (p :: ps)) s :=
  h.of_reads fun _ _ => .cons (hp _)

/-- A mark that is no bracket needs no space before what follows it. -/
theorem mark {m : Mark} (hopens : (Token.mark m).opens = false)
    (hcloses : (Token.mark m).closes = false) (h : Writes (.all ps) s) :
    Writes (.all (.mark m :: ps)) (m.text ++ s) := by
  obtain ⟨ts, h⟩ := h
  refine ⟨.mark m :: ts, fun hrest hus => ?_, fun rest => ?_, fun stack rest => ?_⟩
  · rw [String.toList_append, List.append_assoc]
    exact (h.scans hrest hus).mark m
  · exact .cons (.mark m _) (h.reads rest)
  · rw [List.cons_append, balanced_of_neither hopens hcloses, h.balances]

theorem mark_only {m : Mark} (hopens : (Token.mark m).opens = false)
    (hcloses : (Token.mark m).closes = false) : Writes (.mark m) m.text :=
  ⟨[.mark m], fun _ hus => hus.mark m, .mark m, balanced_of_neither hopens hcloses⟩

theorem enclosed {o c : Mark} (hopens : (Token.mark o).opens = true)
    (hcloses : closes (.mark o) (.mark c) = true) (h : Writes p s) :
    Writes (.all [.mark o, p, .mark c]) (o.text ++ s ++ c.text) := by
  obtain ⟨ts, h⟩ := h
  refine ⟨.mark o :: (ts ++ [.mark c]), fun {rest us} hrest hus => ?_, fun rest => ?_,
    fun stack rest => ?_⟩
  · have hbody := h.scans (startsApart_mark c rest) (hus.mark c)
    simpa only [String.toList_append, List.append_assoc, List.cons_append, List.nil_append] using
      hbody.mark o
  · rw [List.cons_append, List.append_assoc]
    exact .cons (.mark o _) (.cons (h.reads _) (.cons (.mark c rest) (.nil rest)))
  · rw [List.cons_append, List.append_assoc, balanced_of_opens hopens, h.balances,
      List.singleton_append, balanced_of_closes hcloses]

/-- Texts between separators write a phrase as often as there are texts, which is at least once. -/
theorem intercalate {separator : String} (hblank : separator.toList.all isSeparator = true)
    (hsome : separator.toList.isEmpty = false) {items : List String} (hne : items ≠ [])
    (h : ∀ s ∈ items, Writes p s) : Writes p.some (separator.intercalate items) := by
  induction items with
  | nil => exact absurd rfl hne
  | cons s items ih =>
    obtain ⟨hs, hitems⟩ := List.forall_mem_cons.mp h
    by_cases hnil : items = []
    · subst hnil
      rw [String.intercalate_singleton]
      exact hs.once
    · rw [String.intercalate_cons_of_ne_nil hnil, String.append_assoc]
      have hrest : Writes (.many p) (separator ++ separator.intercalate items) :=
        (ih hnil hitems).many.blank hblank
      have hapart : StartsApart (separator ++ separator.intercalate items).toList := by
        rw [String.toList_append]
        cases hchars : separator.toList with
        | nil =>
          rw [hchars] at hsome
          cases hsome
        | cons c cs =>
          rw [hchars, List.all_cons, Bool.and_eq_true] at hblank
          rcases eq_or_eq_of_isSeparator hblank.1 with rfl | rfl
          · rfl
          · rfl
      exact hs.cons (hrest.last .nil) hapart

end Writes

/-! ## Texts that are no documents -/

theorem isLiteral_of_scanToken {c : Char} (hc : c.isDigit = true) {r source rest : List Char}
    {t : Token} (h : scanToken c r = .ok (t, source, rest)) : isLiteral t = true := by
  have hmark : Mark.ofChar? c = none := ofChar?_eq_none (P := Char.isDigit) rfl hc
  have hdot : c ≠ '.' := by
    rintro rfl
    cases hc
  have hstart : ¬ isNameStart c = true := by
    have hascii : c.toNat < 0x80 := by
      have hbounds := hc
      simp only [Char.isDigit, Bool.and_eq_true, decide_eq_true_eq] at hbounds
      have hnine : c.val.toNat ≤ 57 := UInt32.le_iff_toNat_le.mp hbounds.2
      have htoNat : c.toNat = c.val.toNat := rfl
      omega
    have hdigit := Text.forall_ascii
      (P := fun c => c.isDigit = true → isNameStart c = false) (by decide) c hascii hc
    rw [hdigit]
    exact Bool.false_ne_true
  simp only [scanToken, hmark, if_neg hdot, dif_neg hstart, hc, or_true, if_true] at h
  split_ifs at h
  · cases h
    rfl
  · cases h
    rfl

/-- A text whose first word is followed by a digit is no document. -/
theorem not_isDocument_of_digit {n : Name} {c : Char} {r : List Char} {s : String}
    (hc : c.isDigit = true) (hs : s.toList = n.text.toList ++ ' ' :: c :: r) : ¬ IsDocument s := by
  rintro ⟨ts, hts, hreads, _⟩
  obtain ⟨d, cs, hchars, hskip, hscan⟩ := exists_scanToken_name n (s := ' ' :: c :: r) rfl
  have hdigit : ∀ p, skipBlanks false p (' ' :: c :: r) = (p.right 1, c :: r) := fun p =>
    skipBlanks_eq (P := Char.isDigit) rfl hc (p.right 1) r
  rw [hchars] at hs
  cases htoken : scanToken c r with
  | error f => simp [tokens?, hs, scanFrom, hskip, hscan, hdigit, htoken] at hts
  | ok scanned =>
    obtain ⟨t, source, rest⟩ := scanned
    have hliteral := isLiteral_of_scanToken hc htoken
    have hopens : t.opens = false := by
      cases t <;> first | rfl | cases hliteral
    obtain ⟨us, rfl⟩ : ∃ us, ts = .name n :: t :: us := by
      simp [tokens?, hs, scanFrom, hskip, hscan, hdigit, htoken, hopens] at hts
      exact ⟨_, hts.2.symm⟩
    exact hreads.not_document_of_literal hliteral

end SchemaSdk.Executable
