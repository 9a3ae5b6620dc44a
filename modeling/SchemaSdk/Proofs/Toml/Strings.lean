import Mathlib.Data.List.TakeWhile
import SchemaSdk.Proofs.Text.Words
import SchemaSdk.Toml.Written

/-!
# Written strings read back

Each form of a written string reads as the string, whatever stands behind it, and so does each part
of a key.
-/
namespace SchemaSdk.Toml

open SchemaSdk.Text

/-! ## Escapes -/

/-- How a character stands in a string with escapes: as itself, or as a backslash with what reads as
the character and continues no line. -/
inductive IsEscape (c : Char) : List Char → Prop
  | itself (hplain : isPlain c = true) (hquote : c ≠ '"') (hbackslash : c ≠ '\\') : IsEscape c [c]
  | escaped (d : Char) (t : List Char) (hline : ∀ r, newline? (skipSpace (d :: (t ++ r))) = none)
      (hread : ∀ r, readEscape (d :: (t ++ r)) = some (c, r)) : IsEscape c ('\\' :: d :: t)

theorem ascii_of_isControl {c : Char} (h : isControl c = true) : c.toNat < 128 := by
  simp only [isControl, Bool.or_eq_true, Bool.and_eq_true, decide_eq_true_eq, beq_iff_eq] at h
  omega

theorem isPlain_of_isControl_eq_false {c : Char} (h : isControl c = false) (hfeed : c ≠ '\n') :
    isPlain c = true := by
  simp only [isControl, Bool.or_eq_false_iff, Bool.and_eq_false_iff, decide_eq_false_iff_not,
    bne_eq_false_iff_eq, beq_eq_false_iff_ne] at h
  obtain ⟨hlow | hlow, hdelete⟩ := h
  · simp only [isPlain, Bool.or_eq_true, Bool.and_eq_true, decide_eq_true_eq, bne_iff_ne]
    exact .inr ⟨by omega, hdelete⟩
  · exact absurd hlow hfeed

theorem codePointEscape_eq {c : Char} (h : isControl c = true) : ∃ a b d e,
    codePointEscape c = ['\\', 'u', a, b, d, e] ∧
      (hexValue? [a, b, d, e]).bind charOfCodePoint? = some c := by
  have hshape : (codePointEscape c).take 2 = ['\\', 'u'] ∧ (codePointEscape c).length = 6 ∧
      (hexValue? ((codePointEscape c).drop 2)).bind charOfCodePoint? = some c := by
    refine forall_ascii (P := fun c => (codePointEscape c).take 2 = ['\\', 'u'] ∧
      (codePointEscape c).length = 6 ∧
        (hexValue? ((codePointEscape c).drop 2)).bind charOfCodePoint? = some c) ?_ c
      (ascii_of_isControl h)
    decide +kernel
  obtain ⟨htake, hlength, hvalue⟩ := hshape
  match hescape : codePointEscape c, hlength with
  | [x, y, a, b, d, e], _ =>
    rw [hescape] at htake hvalue
    obtain ⟨rfl, hy⟩ := List.cons.inj htake
    obtain ⟨rfl, -⟩ := List.cons.inj hy
    exact ⟨a, b, d, e, rfl, hvalue⟩

theorem isEscape_codePointEscape {c : Char} (h : isControl c = true) :
    IsEscape c (codePointEscape c) := by
  obtain ⟨a, b, d, e, heq, hvalue⟩ := codePointEscape_eq h
  rw [heq]
  refine .escaped 'u' [a, b, d, e] (fun r => rfl) fun r => ?_
  simp only [List.cons_append, List.nil_append, readEscape, hvalue, Option.map_some]

theorem isEscape_escape (c : Char) : IsEscape c (escape c) := by
  unfold escape
  split_ifs with h1 h2 h3 h4 h5 h6 h7 h8
  · rw [eq_of_beq h1]
    exact .escaped '"' [] (fun r => rfl) fun r => rfl
  · rw [eq_of_beq h2]
    exact .escaped '\\' [] (fun r => rfl) fun r => rfl
  · rw [eq_of_beq h3]
    exact .escaped 'b' [] (fun r => rfl) fun r => rfl
  · rw [eq_of_beq h4]
    exact .escaped 't' [] (fun r => rfl) fun r => rfl
  · rw [eq_of_beq h5]
    exact .escaped 'n' [] (fun r => rfl) fun r => rfl
  · rw [eq_of_beq h6]
    exact .escaped 'f' [] (fun r => rfl) fun r => rfl
  · rw [eq_of_beq h7]
    exact .escaped 'r' [] (fun r => rfl) fun r => rfl
  · exact isEscape_codePointEscape h8
  · exact .itself (isPlain_of_isControl_eq_false (by simpa using h8) (by simpa using h5))
      (by simpa using h1) (by simpa using h2)

/-! ## Strings within a line -/

/-- The second text is the first one with escapes. -/
inductive IsEscaped : List Char → List Char → Prop
  | nil : IsEscaped [] []
  | cons {c : Char} {e s b : List Char} (he : IsEscape c e) (hb : IsEscaped s b) :
      IsEscaped (c :: s) (e ++ b)

theorem isEscaped_flatMap_escape (s : List Char) : IsEscaped s (s.flatMap escape) := by
  induction s with
  | nil => exact .nil
  | cons c s ih => exact .cons (isEscape_escape c) ih

theorem isEscaped_self {s : List Char} (hplain : ∀ c ∈ s, isPlain c = true) (hquote : '"' ∉ s)
    (hbackslash : '\\' ∉ s) : IsEscaped s s := by
  induction s with
  | nil => exact .nil
  | cons c s ih =>
    obtain ⟨hc, hs⟩ := List.forall_mem_cons.mp hplain
    rw [List.mem_cons, not_or] at hquote hbackslash
    exact .cons (e := [c]) (.itself hc (Ne.symm hquote.1) (Ne.symm hbackslash.1))
      (ih hs hquote.2 hbackslash.2)

/-- A string with escapes is read up to the quote that ends it. -/
theorem readBasic_of_isEscaped {s b : List Char} (h : IsEscaped s b) (r : List Char) {fuel : Nat}
    (hfuel : b.length < fuel) : readBasic fuel (b ++ '"' :: r) = some (s, r) := by
  induction h generalizing fuel with
  | nil =>
    obtain ⟨fuel, rfl⟩ := Nat.exists_eq_add_of_lt hfuel
    rfl
  | @cons c e s b he hb ih =>
    cases he with
    | itself hplain hquote hbackslash =>
      simp only [List.singleton_append, List.length_cons] at hfuel
      obtain ⟨fuel, rfl⟩ := Nat.exists_eq_succ_of_ne_zero (Nat.ne_zero_of_lt hfuel)
      rw [List.append_assoc, List.singleton_append, readBasic.eq_5 _ _ _ hquote hbackslash,
        if_pos hplain, ih (by omega), Option.map_some]
    | escaped d t _ hread =>
      simp only [List.cons_append, List.length_cons, List.length_append] at hfuel
      obtain ⟨fuel, rfl⟩ := Nat.exists_eq_succ_of_ne_zero (Nat.ne_zero_of_lt hfuel)
      rw [List.append_assoc, List.cons_append, List.cons_append, readBasic, hread]
      dsimp only
      rw [ih (by omega), Option.map_some]

theorem readLiteral_append {s : List Char} (hplain : ∀ c ∈ s, isPlain c = true)
    (hquote : '\'' ∉ s) (r : List Char) : readLiteral (s ++ '\'' :: r) = some (s, r) := by
  induction s with
  | nil => rfl
  | cons c s ih =>
    obtain ⟨hc, hs⟩ := List.forall_mem_cons.mp hplain
    rw [List.mem_cons, not_or] at hquote
    rw [List.cons_append, readLiteral, if_pos hc, ih hs hquote.2, Option.map_some]
    exact fun heq => hquote.1 heq.symm

/-! ## Strings over several lines -/

/-- A text goes on with something else than a character. -/
def GoesOn (c : Char) (r : List Char) : Prop := r.head? ≠ some c

/-- Quotes after less than three of them in a row end a string only if nothing stands between. -/
theorem closing?_append {quote : Char} {s r : List Char}
    (hrun : (s.takeWhile (· == quote)).length ≤ 2) (hr : GoesOn quote r) :
    closing? quote (s ++ [quote, quote, quote] ++ r) =
      if s.all (· == quote) then some (s, r) else none := by
  have hstop : r.takeWhile (· == quote) = [] := by
    cases r with
    | nil => rfl
    | cons c r =>
      rw [List.takeWhile_cons, if_neg]
      rintro heq
      exact hr (by rw [eq_of_beq heq]; rfl)
  by_cases hall : s.all (· == quote) = true
  · have hs : ∀ c ∈ s, c = quote := fun c hc => eq_of_beq (List.all_eq_true.mp hall c hc)
    have hreplicate : s = List.replicate s.length quote := List.eq_replicate_of_mem hs
    have hself : s.takeWhile (· == quote) = s :=
      List.takeWhile_eq_self_iff.mpr (List.all_eq_true.mp hall)
    rw [hself] at hrun
    have htake : (s ++ [quote, quote, quote] ++ r).takeWhile (· == quote) =
        s ++ [quote, quote, quote] := by
      rw [List.takeWhile_append_of_pos, hstop, List.append_nil]
      simpa [or_imp, forall_and] using hs
    have hlength : (s ++ [quote, quote, quote]).length = s.length + 3 := List.length_append
    rw [if_pos hall, closing?, htake, hlength, if_pos (by omega), Nat.add_sub_cancel,
      Nat.min_eq_left hrun, Nat.min_eq_left (by omega), ← hreplicate, List.drop_left' hlength]
  · have htake : (s ++ [quote, quote, quote] ++ r).takeWhile (· == quote) =
        s.takeWhile (· == quote) := by
      rw [List.append_assoc, List.takeWhile_append, if_neg]
      intro hlength
      exact hall (List.all_eq_true.mpr (List.takeWhile_eq_self_iff.mp
        (List.IsPrefix.eq_of_length (List.takeWhile_prefix _) hlength)))
    rw [if_neg hall, closing?, htake]
    exact if_neg (by omega)

/-- The quotes that a text starts with. -/
def quoteRun (s : List Char) : List Char := s.takeWhile (· == '"')

/-- The second text stands for the first one between quotes over several lines. -/
inductive IsLong : List Char → List Char → Prop
  | nil : IsLong [] []
  | feed {s b : List Char} (hb : IsLong s b) : IsLong ('\n' :: s) ('\n' :: b)
  | quote {s b : List Char} (hb : IsLong s b) (hrun : (quoteRun b).length ≤ 1) :
      IsLong ('"' :: s) ('"' :: b)
  | char {c : Char} {e s b : List Char} (he : IsEscape c e) (hb : IsLong s b) :
      IsLong (c :: s) (e ++ b)

theorem IsEscape.head_ne {c : Char} {e : List Char} (h : IsEscape c e) (b : List Char) :
    ∃ d t, e ++ b = d :: t ∧ d ≠ '"' := by
  cases h with
  | itself _ hquote => exact ⟨c, b, rfl, hquote⟩
  | escaped d t => exact ⟨'\\', d :: (t ++ b), rfl, by decide⟩

theorem quoteRun_append_of_isEscape {c : Char} {e : List Char} (h : IsEscape c e) (b : List Char) :
    quoteRun (e ++ b) = [] := by
  obtain ⟨d, t, heq, hd⟩ := h.head_ne b
  rw [heq, quoteRun, List.takeWhile_cons, if_neg (by simpa using hd)]

theorem IsLong.length_quoteRun_le {s b : List Char} (h : IsLong s b) :
    (quoteRun b).length ≤ 2 := by
  cases h with
  | nil => exact Nat.zero_le 2
  | feed => exact Nat.zero_le 2
  | quote _ hrun => exact Nat.succ_le_succ hrun
  | char he _ =>
    rw [quoteRun_append_of_isEscape he]
    exact Nat.zero_le 2

/-- Nothing but quotes stands for itself. -/
theorem IsLong.eq_of_all {s b : List Char} (h : IsLong s b) (hall : b.all (· == '"') = true) :
    b = s := by
  induction h with
  | nil => rfl
  | feed hb ih => simp at hall
  | quote hb hrun ih =>
    rw [ih (by simpa using hall)]
  | @char c e s b he hb ih =>
    obtain ⟨d, t, heq, hd⟩ := he.head_ne b
    simp [heq, hd] at hall

theorem newline?_cons_of_isPlain {c : Char} (h : isPlain c = true) (r : List Char) :
    newline? (c :: r) = none := by
  unfold newline?
  split
  case h_1 heq =>
    obtain ⟨rfl, _⟩ := List.cons.inj heq
    exact absurd h (by decide)
  case h_2 heq =>
    obtain ⟨rfl, _⟩ := List.cons.inj heq
    exact absurd h (by decide)
  case h_3 => rfl

section Steps

variable {fuel : Nat} {c : Char} {s : List Char}

theorem readLong_of_closing? {found : List Char × List Char} (h : closing? '"' s = some found) :
    readLong (fuel + 1) s = some found := by
  rw [readLong.eq_def]
  dsimp only
  rw [h]

theorem readLong_feed (h : closing? '"' ('\n' :: s) = none) :
    readLong (fuel + 1) ('\n' :: s) =
      (readLong fuel s).map fun (s, rest) => ('\n' :: s, rest) := by
  rw [readLong, h]
  · rfl
  · decide

theorem readLong_plain (h : closing? '"' (c :: s) = none) (hplain : isPlain c = true)
    (hbackslash : c ≠ '\\') :
    readLong (fuel + 1) (c :: s) = (readLong fuel s).map fun (s, rest) => (c :: s, rest) := by
  rw [readLong, h]
  · dsimp only
    rw [newline?_cons_of_isPlain hplain]
    exact if_pos hplain
  · exact hbackslash

theorem readLong_escape {r : List Char} (h : closing? '"' ('\\' :: s) = none)
    (hline : newline? (skipSpace s) = none) (hread : readEscape s = some (c, r)) :
    readLong (fuel + 1) ('\\' :: s) = (readLong fuel r).map fun (s, rest) => (c :: s, rest) := by
  rw [readLong, h]
  dsimp only
  rw [hline, hread]

end Steps

/-- A string over several lines is read up to the three quotes that end it. -/
theorem readLong_of_isLong {s b r : List Char} (h : IsLong s b) (hr : GoesOn '"' r) {fuel : Nat}
    (hfuel : b.length < fuel) : readLong fuel (b ++ ['"', '"', '"'] ++ r) = some (s, r) := by
  induction h generalizing fuel with
  | nil =>
    obtain ⟨fuel, rfl⟩ := Nat.exists_eq_add_of_lt hfuel
    exact readLong_of_closing? (closing?_append (s := []) (Nat.zero_le 2) hr)
  | @feed s b hb ih =>
    rw [List.length_cons] at hfuel
    obtain ⟨fuel, rfl⟩ := Nat.exists_eq_succ_of_ne_zero (Nat.ne_zero_of_lt hfuel)
    have hclosing := closing?_append (IsLong.feed hb).length_quoteRun_le hr
    simp only [List.cons_append] at hclosing ⊢
    rw [readLong_feed hclosing, ih (by omega)]
    rfl
  | @quote s b hb hrun ih =>
    rw [List.length_cons] at hfuel
    obtain ⟨fuel, rfl⟩ := Nat.exists_eq_succ_of_ne_zero (Nat.ne_zero_of_lt hfuel)
    have hclosing := closing?_append (IsLong.quote hb hrun).length_quoteRun_le hr
    by_cases hall : ('"' :: b).all (· == '"') = true
    · rw [if_pos hall] at hclosing
      rw [readLong_of_closing? hclosing, (IsLong.quote hb hrun).eq_of_all hall]
    · rw [if_neg hall] at hclosing
      simp only [List.cons_append] at hclosing ⊢
      rw [readLong_plain hclosing (by decide) (by decide), ih (by omega)]
      rfl
  | @char c e s b he hb ih =>
    obtain ⟨d, t, heq, hd⟩ := he.head_ne b
    have hclosing := closing?_append (IsLong.char he hb).length_quoteRun_le hr
    rw [if_neg (by simp [heq, hd])] at hclosing
    cases he with
    | itself hplain _ hbackslash =>
      simp only [List.length_cons, List.cons_append, List.nil_append] at hfuel hclosing ⊢
      obtain ⟨fuel, rfl⟩ := Nat.exists_eq_succ_of_ne_zero (Nat.ne_zero_of_lt hfuel)
      rw [readLong_plain hclosing hplain hbackslash, ih (by omega)]
      rfl
    | escaped d t hline hread =>
      simp only [List.cons_append, List.length_cons, List.length_append, List.append_assoc]
        at hfuel hclosing ih ⊢
      obtain ⟨fuel, rfl⟩ := Nat.exists_eq_succ_of_ne_zero (Nat.ne_zero_of_lt hfuel)
      rw [readLong_escape hclosing (hline _) (hread _), ih (by omega)]
      rfl

/-- The third quote in a row is escaped. -/
theorem isLong_longEscape (s : List Char) {n : Nat} (hn : n ≤ 2) :
    IsLong s (longEscape n s) ∧ (quoteRun (longEscape n s)).length ≤ 2 - n := by
  induction s generalizing n with
  | nil => exact ⟨.nil, Nat.zero_le _⟩
  | cons c s ih =>
    unfold longEscape
    split_ifs with hfeed hquote hroom
    · rw [eq_of_beq hfeed]
      exact ⟨.feed (ih (Nat.zero_le 2)).1, Nat.zero_le _⟩
    · rw [eq_of_beq hquote]
      obtain ⟨hlong, hrun⟩ := ih (n := n + 1) hroom
      refine ⟨.quote hlong (by omega), ?_⟩
      have hcons : quoteRun ('"' :: longEscape (n + 1) s) = '"' :: quoteRun (longEscape (n + 1) s) :=
        rfl
      rw [hcons, List.length_cons]
      omega
    · rw [eq_of_beq hquote]
      have hescape : IsEscape '"' ['\\', '"'] := isEscape_escape '"'
      exact ⟨.char hescape (ih (Nat.zero_le 2)).1, Nat.zero_le _⟩
    · rw [quoteRun_append_of_isEscape (isEscape_escape c)]
      exact ⟨.char (isEscape_escape c) (ih (Nat.zero_le 2)).1, Nat.zero_le _⟩

theorem hasThree_of_cons {quote c : Char} {s : List Char} (h : hasThree quote (c :: s) = false) :
    hasThree quote s = false := by
  match s, h with
  | [], _ => rfl
  | [_], _ => rfl
  | a :: b :: s, h =>
    rw [hasThree, Bool.or_eq_false_iff] at h
    exact h.2

theorem length_takeWhile_le_of_hasThree {quote : Char} {s : List Char}
    (h : hasThree quote s = false) : (s.takeWhile (· == quote)).length ≤ 2 := by
  match s, h with
  | [], _ => exact Nat.zero_le 2
  | [a], _ => exact (List.takeWhile_sublist _).length_le.trans (by simp)
  | [a, b], _ => exact (List.takeWhile_sublist _).length_le.trans (by simp)
  | a :: b :: c :: s, h =>
    rw [hasThree, Bool.or_eq_false_iff] at h
    cases ha : a == quote <;> cases hb : b == quote <;> cases hc : c == quote <;>
      simp_all

theorem isLong_self {s : List Char} (hcontrol : s.any isControl = false)
    (hbackslash : '\\' ∉ s) (hthree : hasThree '"' s = false) : IsLong s s := by
  induction s with
  | nil => exact .nil
  | cons c s ih =>
    rw [List.any_cons, Bool.or_eq_false_iff] at hcontrol
    rw [List.mem_cons, not_or] at hbackslash
    have hs := ih hcontrol.2 hbackslash.2 (hasThree_of_cons hthree)
    by_cases hfeed : c = '\n'
    · rw [hfeed]
      exact .feed hs
    by_cases hquote : c = '"'
    · have hrun := length_takeWhile_le_of_hasThree hthree
      rw [hquote] at hrun ⊢
      exact .quote hs (Nat.le_of_succ_le_succ hrun)
    · exact .char (e := [c]) (.itself (isPlain_of_isControl_eq_false hcontrol.1 hfeed) hquote
        (Ne.symm hbackslash.1)) hs

/-- A literal string over several lines is read up to the three apostrophes that end it. -/
theorem readLongLiteral_append {s r : List Char} (hcontrol : s.any isControl = false)
    (hthree : hasThree '\'' s = false) (hr : GoesOn '\'' r) {fuel : Nat}
    (hfuel : s.length < fuel) :
    readLongLiteral fuel (s ++ ['\'', '\'', '\''] ++ r) = some (s, r) := by
  induction s generalizing fuel with
  | nil =>
    obtain ⟨fuel, rfl⟩ := Nat.exists_eq_add_of_lt hfuel
    have hclosing := closing?_append (s := []) (Nat.zero_le 2) hr
    rw [readLongLiteral.eq_def]
    dsimp only
    rw [hclosing]
    rfl
  | cons c s ih =>
    have hclosing := closing?_append (length_takeWhile_le_of_hasThree hthree) hr
    rw [List.any_cons, Bool.or_eq_false_iff] at hcontrol
    rw [List.length_cons] at hfuel
    obtain ⟨fuel, rfl⟩ := Nat.exists_eq_succ_of_ne_zero (Nat.ne_zero_of_lt hfuel)
    by_cases hall : (c :: s).all (· == '\'') = true
    · rw [if_pos hall] at hclosing
      rw [readLongLiteral.eq_def]
      dsimp only
      rw [hclosing]
    rw [if_neg hall] at hclosing
    have hlength : s.length < fuel := by omega
    have hs := ih hcontrol.2 (hasThree_of_cons hthree) hlength
    simp only [List.cons_append] at hclosing ⊢
    rw [readLongLiteral, hclosing]
    dsimp only
    by_cases hfeed : c = '\n'
    · rw [hfeed, newline?]
      dsimp only
      rw [hs]
      rfl
    · have hplain := isPlain_of_isControl_eq_false hcontrol.1 hfeed
      rw [newline?_cons_of_isPlain hplain]
      dsimp only
      rw [if_pos hplain, hs]
      rfl

/-! ## The forms of a string -/

/-- A string within a line is written as it is only if it has nothing to escape. -/
theorem shortForm_cases (s : List Char) : shortForm s = .escaped ∨ (∀ c ∈ s, isPlain c = true) ∧
    (shortForm s = .basic ∧ '"' ∉ s ∧ '\\' ∉ s ∨ shortForm s = .literal ∧ '\'' ∉ s ∧ s ≠ []) := by
  unfold shortForm
  by_cases hcontrol : (s.any fun c => isControl c || c == '\n') = true
  · exact .inl (if_pos hcontrol)
  have hplain : ∀ c ∈ s, isPlain c = true := by
    simp only [List.any_eq_true, not_exists, not_and, Bool.or_eq_true, not_or] at hcontrol
    exact fun c hc => isPlain_of_isControl_eq_false (by simpa using (hcontrol c hc).1)
      (by simpa using (hcontrol c hc).2)
  rw [if_neg hcontrol]
  by_cases hspecial : (s.any fun c => c == '"' || c == '\\') = true
  · rw [if_neg (by simp [hspecial])]
    by_cases hapostrophe : '\'' ∈ s
    · exact .inl (if_neg (by simp [hapostrophe]))
    · refine .inr ⟨hplain, .inr ⟨if_pos (by simp [hapostrophe]), hapostrophe, ?_⟩⟩
      rintro rfl
      cases hspecial
  · refine .inr ⟨hplain, .inl ⟨if_pos (by simp [hspecial]), ?_, ?_⟩⟩
    · exact fun h => hspecial (List.any_eq_true.mpr ⟨_, h, rfl⟩)
    · exact fun h => hspecial (List.any_eq_true.mpr ⟨_, h, rfl⟩)

theorem dropNewline_opening {s t : List Char} (h : '\n' ∉ s → newline? t = none) :
    dropNewline (opening s ++ t) = t := by
  unfold opening
  by_cases hfeed : '\n' ∈ s
  · rw [if_pos (List.contains_iff_mem.mpr hfeed)]
    rfl
  · rw [if_neg (mt List.contains_iff_mem.mp hfeed), List.nil_append, dropNewline, h hfeed]
    rfl

theorem newline?_append_of_isControl {s : List Char} (hcontrol : s.any isControl = false)
    (hfeed : '\n' ∉ s) {c : Char} (hc : isPlain c = true) (r : List Char) :
    newline? (s ++ c :: r) = none := by
  cases s with
  | nil => exact newline?_cons_of_isPlain hc r
  | cons d s =>
    rw [List.any_cons, Bool.or_eq_false_iff] at hcontrol
    rw [List.mem_cons, not_or] at hfeed
    exact newline?_cons_of_isPlain
      (isPlain_of_isControl_eq_false hcontrol.1 (Ne.symm hfeed.1)) _

section Forms

variable {s b r : List Char}

theorem readString_basic (h : IsEscaped s b) (hr : GoesOn '"' r) :
    readString ('"' :: b ++ ['"'] ++ r) = some (s, r) := by
  have hsingle : ∀ t, b ++ '"' :: r = '"' :: '"' :: t → False := by
    intro t heq
    cases h with
    | nil => exact hr (by rw [(List.cons.inj heq).2]; rfl)
    | cons he hb =>
      obtain ⟨d, t', happend, hd⟩ := he.head_ne _
      rw [happend] at heq
      exact hd (List.cons.inj heq).1
  simp only [List.cons_append, List.append_assoc, List.nil_append]
  rw [readString.eq_2 _ hsingle, readBasic_of_isEscaped h r]
  simp only [List.length_cons, List.length_append]
  omega

theorem readString_literal (hplain : ∀ c ∈ s, isPlain c = true) (hapostrophe : '\'' ∉ s)
    (hne : s ≠ []) : readString ('\'' :: s ++ ['\''] ++ r) = some (s, r) := by
  have hsingle : ∀ t, s ++ '\'' :: r = '\'' :: '\'' :: t → False := by
    intro t heq
    cases s with
    | nil => exact hne rfl
    | cons c s =>
      rw [(List.cons.inj heq).1] at hapostrophe
      exact hapostrophe List.mem_cons_self
  simp only [List.cons_append, List.append_assoc, List.nil_append]
  rw [readString.eq_4 _ hsingle, readLiteral_append hplain hapostrophe]

theorem readString_long (h : IsLong s b) (hr : GoesOn '"' r)
    (hfeed : '\n' ∉ s → b.any isControl = false ∧ '\n' ∉ b) :
    readString (['"', '"', '"'] ++ opening s ++ b ++ ['"', '"', '"'] ++ r) = some (s, r) := by
  have hline : '\n' ∉ s → newline? (b ++ ['"', '"', '"'] ++ r) = none := by
    intro hs
    rw [List.append_assoc]
    exact newline?_append_of_isControl (hfeed hs).1 (hfeed hs).2 (by decide) _
  simp only [List.append_assoc, List.cons_append, List.nil_append] at hline ⊢
  rw [readString, dropNewline_opening hline]
  have happend : b ++ '"' :: '"' :: '"' :: r = b ++ ['"', '"', '"'] ++ r := by simp
  rw [happend]
  refine readLong_of_isLong h hr ?_
  simp only [List.length_cons, List.length_append]
  omega

theorem readString_longLiteral (hcontrol : s.any isControl = false)
    (hthree : hasThree '\'' s = false) (hr : GoesOn '\'' r) :
    readString (['\'', '\'', '\''] ++ opening s ++ s ++ ['\'', '\'', '\''] ++ r) = some (s, r) := by
  have hline : '\n' ∉ s → newline? (s ++ ['\'', '\'', '\''] ++ r) = none := by
    intro hs
    rw [List.append_assoc]
    exact newline?_append_of_isControl hcontrol hs (by decide) _
  simp only [List.append_assoc, List.cons_append, List.nil_append] at hline ⊢
  rw [readString, dropNewline_opening hline]
  have happend : s ++ '\'' :: '\'' :: '\'' :: r = s ++ ['\'', '\'', '\''] ++ r := by simp
  rw [happend]
  refine readLongLiteral_append hcontrol hthree hr ?_
  simp only [List.length_cons, List.length_append]
  omega

end Forms

/-! ## Strings as values and as parts of keys -/

/-- **What is written for a string reads as the string.** -/
theorem readString_writeString (s : String) {r : List Char} (hquote : GoesOn '"' r)
    (hapostrophe : GoesOn '\'' r) : readString (writeString s ++ r) = some (s.toList, r) := by
  rw [writeString, form]
  obtain hshort | ⟨hplain, ⟨hshort, hq, hb⟩ | ⟨hshort, hq, hne⟩⟩ := shortForm_cases s.toList
  · rw [hshort]
    dsimp only
    split_ifs with hbasic hliteral hfeed
    · simp only [Bool.and_eq_true, Bool.not_eq_true', List.contains_eq_mem,
        decide_eq_false_iff_not] at hbasic
      exact readString_long (isLong_self hbasic.1.1 hbasic.1.2 hbasic.2) hquote
        fun hs => ⟨hbasic.1.1, hs⟩
    · simp only [Bool.and_eq_true, Bool.not_eq_true'] at hliteral
      exact readString_longLiteral hliteral.1 hliteral.2 hapostrophe
    · exact readString_long (isLong_longEscape s.toList (Nat.zero_le 2)).1 hquote
        fun hs => absurd (List.contains_iff_mem.mp hfeed) hs
    · exact readString_basic (isEscaped_flatMap_escape s.toList) hquote
  · rw [hshort]
    exact readString_basic (isEscaped_self hplain hq hb) hquote
  · rw [hshort]
    exact readString_literal hplain hq hne

/-- A text goes on with nothing that belongs to a key without quotes. -/
def EndsKey (r : List Char) : Prop := ∀ c ∈ r.head?, isBare c = false

theorem readKeyPart_basic {s b r : List Char} (h : IsEscaped s b) :
    readKeyPart ('"' :: b ++ ['"'] ++ r) = some (String.ofList s, r) := by
  simp only [List.cons_append, List.append_assoc, List.nil_append]
  rw [readKeyPart, readBasic_of_isEscaped h r]
  · rfl
  · simp only [List.length_cons, List.length_append]
    omega

theorem readKeyPart_literal {s r : List Char} (hplain : ∀ c ∈ s, isPlain c = true)
    (hapostrophe : '\'' ∉ s) :
    readKeyPart ('\'' :: s ++ ['\''] ++ r) = some (String.ofList s, r) := by
  simp only [List.cons_append, List.append_assoc, List.nil_append]
  rw [readKeyPart, readLiteral_append hplain hapostrophe]
  rfl

theorem EndsKey.takeWhile_eq_nil {r : List Char} (h : EndsKey r) : r.takeWhile isBare = [] := by
  cases r with
  | nil => rfl
  | cons c r => rw [List.takeWhile_cons, if_neg (by simp [h c rfl])]

theorem EndsKey.dropWhile_eq_self {r : List Char} (h : EndsKey r) : r.dropWhile isBare = r := by
  cases r with
  | nil => rfl
  | cons c r => rw [List.dropWhile_cons, if_neg (by simp [h c rfl])]

theorem readKeyPart_bare {s r : List Char} (hne : s ≠ []) (hbare : ∀ c ∈ s, isBare c = true)
    (hr : EndsKey r) : readKeyPart (s ++ r) = some (String.ofList s, r) := by
  have htake : (s ++ r).takeWhile isBare = s := by
    rw [List.takeWhile_append_of_pos hbare, hr.takeWhile_eq_nil, List.append_nil]
  have hdrop : (s ++ r).dropWhile isBare = r := by
    rw [List.dropWhile_append_of_pos hbare, hr.dropWhile_eq_self]
  cases s with
  | nil => exact absurd rfl hne
  | cons c s =>
    have hc := hbare c List.mem_cons_self
    rw [List.cons_append] at htake hdrop ⊢
    rw [readKeyPart.eq_3, htake, hdrop]
    · rintro t heq
      rw [(List.cons.inj heq).1] at hc
      cases hc
    · rintro t heq
      rw [(List.cons.inj heq).1] at hc
      cases hc

/-- **What is written for a part of a key reads as the part.** -/
theorem readKeyPart_writeKey (s : String) {r : List Char} (hr : EndsKey r) :
    readKeyPart (writeKey s ++ r) = some (s, r) := by
  unfold writeKey
  have hstring : String.ofList s.toList = s := String.ofList_toList
  split_ifs with hbare
  · simp only [Bool.and_eq_true, Bool.not_eq_true', List.all_eq_true] at hbare
    rw [readKeyPart_bare _ hbare.2 hr, hstring]
    intro hnil
    rw [← hstring, hnil] at hbare
    exact absurd hbare.1 (by decide)
  · obtain hshort | ⟨hplain, ⟨hshort, hq, hb⟩ | ⟨hshort, hq, hne⟩⟩ := shortForm_cases s.toList
    · rw [hshort, StringForm.write, readKeyPart_basic (isEscaped_flatMap_escape s.toList), hstring]
    · rw [hshort, StringForm.write, readKeyPart_basic (isEscaped_self hplain hq hb), hstring]
    · rw [hshort, StringForm.write, readKeyPart_literal hplain hq, hstring]

end SchemaSdk.Toml
