import Mathlib.Data.List.Basic
import SchemaSdk.Text.Digits

/-!
# String literals of Rust

What the characters between the quotation marks of a literal denote. A plain literal ends at the
first quotation mark that is not escaped, and line breaks may stand in it; a raw one escapes nothing
and ends at the first quotation mark with as many number signs behind it as it started with. Every
escape is longer than what it denotes, so a literal as long as its value is the value itself.
-/
namespace SchemaSdk.Text

/-! ## Plain literals -/

/-- The characters that are escaped by a letter or a mark of their own. -/
def shortEscapes : List (Char × Char) := [
  ('n', '\n'), ('r', '\r'), ('t', '\t'), ('0', '\x00'), ('\\', '\\'), ('\'', '\''), ('"', '"')]

/-- What stands behind a backslash and the character that it denotes. -/
inductive Escape : List Char → Char → Prop where
  | short {mark c : Char} : (mark, c) ∈ shortEscapes → Escape [mark] c
  | byte {a b : Char} {n : Nat} :
      hexValue? [a, b] = some n → n < 0x80 → Escape ['x', a, b] (Char.ofNat n)
  | codePoint {digits : List Char} {n : Nat} {c : Char} :
      digits.head? ≠ some '_' → 1 ≤ (digits.filter (· != '_')).length →
      (digits.filter (· != '_')).length ≤ 6 → hexValue? (digits.filter (· != '_')) = some n →
      charOfCodePoint? n = some c → Escape ('u' :: '\x7b' :: digits ++ ['\x7d']) c

/-- The blanks that are passed over behind a backslash at the end of a line. -/
def continuationBlanks : List Char := [' ', '\t', '\n', '\r']

/-- The first characters between the quotation marks of a literal denote the second ones. -/
inductive Denotes : List Char → List Char → Prop where
  | nil : Denotes [] []
  | char {c : Char} {raw value : List Char} :
      c ∉ ['"', '\\', '\r'] → Denotes raw value → Denotes (c :: raw) (c :: value)
  | lineBreak {raw value : List Char} :
      Denotes raw value → Denotes ('\r' :: '\n' :: raw) ('\n' :: value)
  | escape {spelling raw value : List Char} {c : Char} :
      Escape spelling c → Denotes raw value → Denotes ('\\' :: spelling ++ raw) (c :: value)
  | continuation {lineEnd blanks raw value : List Char} :
      lineEnd ∈ [['\n'], ['\r', '\n']] → (∀ c ∈ blanks, c ∈ continuationBlanks) →
      (∀ c ∈ raw.head?, c ∉ continuationBlanks) → Denotes raw value →
      Denotes ('\\' :: lineEnd ++ blanks ++ raw) value

/-- Nothing in the text has to be escaped. -/
def Unescaped (s : List Char) : Prop := ∀ c ∈ s, c ∉ ['"', '\\', '\r']

instance : DecidablePred Unescaped := List.decidableBAll fun c => c ∉ ['"', '\\', '\r']

theorem Unescaped.denotes {s : List Char} (h : Unescaped s) : Denotes s s := by
  induction s with
  | nil => exact .nil
  | cons c s ih =>
    obtain ⟨hc, hs⟩ := List.forall_mem_cons.mp h
    exact .char hc (ih hs)

theorem isSome_hexDigit?_of_numberIn? {base n : Nat} {ds : List Char}
    (h : numberIn? base ds = some n) : ∀ d ∈ ds, (hexDigit? d).isSome = true := by
  unfold numberIn? at h
  generalize 0 = m at h
  induction ds generalizing m with
  | nil => simp
  | cons d ds ih =>
    rw [List.foldlM_cons, Option.bind_eq_bind, Option.bind_eq_some_iff] at h
    obtain ⟨k, hk, h⟩ := h
    obtain ⟨x, hx, _⟩ := Option.bind_eq_some_iff.mp hk
    exact List.forall_mem_cons.mpr ⟨by rw [hx]; rfl, ih k h⟩

theorem Escape.count_quote_le {spelling : List Char} {c : Char} (h : Escape spelling c) :
    spelling.count '"' ≤ [c].count '"' := by
  have hnoQuote {ds : List Char} {n : Nat} (hn : hexValue? ds = some n) : '"' ∉ ds := by
    intro hmem
    cases isSome_hexDigit?_of_numberIn? hn _ hmem
  cases h with
  | short hmem =>
    have hall : ∀ e ∈ shortEscapes, [e.1].count '"' ≤ [e.2].count '"' := by decide
    exact hall _ hmem
  | byte hn _ =>
    have hquote : '"' ∉ 'x' :: _ := List.not_mem_cons_of_ne_of_not_mem (by decide) (hnoQuote hn)
    rw [List.count_eq_zero.mpr hquote]
    exact Nat.zero_le _
  | @codePoint digits n c _ _ _ hn _ =>
    have hdigits : '"' ∉ digits := fun hmem =>
      hnoQuote hn (List.mem_filter.mpr ⟨hmem, by decide⟩)
    have hquote : '"' ∉ 'u' :: '\x7b' :: digits ++ ['\x7d'] := by simp [hdigits]
    rw [List.count_eq_zero.mpr hquote]
    exact Nat.zero_le _

theorem Escape.length_pos {spelling : List Char} {c : Char} (h : Escape spelling c) :
    0 < spelling.length := by
  cases h <;> simp

namespace Denotes

variable {raw value : List Char}

/-- A quotation mark between those of the literal is escaped, and denoted. -/
theorem count_quote_le (h : Denotes raw value) : raw.count '"' ≤ value.count '"' := by
  induction h with
  | nil => exact Nat.le_refl 0
  | @char c raw value _ _ ih =>
    rw [List.count_cons, List.count_cons]
    omega
  | lineBreak _ ih => simpa using ih
  | @escape spelling raw value c hescape _ ih =>
    have hfirst := hescape.count_quote_le
    have hmark : ('\\' :: spelling ++ raw).count '"' = spelling.count '"' + raw.count '"' := by
      simp
    have hvalue : (c :: value).count '"' = [c].count '"' + value.count '"' := by
      rw [← List.count_append]
      rfl
    omega
  | @continuation lineEnd blanks raw value hend hblanks _ _ ih =>
    have hlineEnd : ∀ l ∈ [['\n'], ['\r', '\n']], l.count '"' = 0 := by decide
    have hskipped : blanks.count '"' = 0 :=
      List.count_eq_zero.mpr fun hmem => absurd (hblanks _ hmem) (by decide)
    have hcount : ('\\' :: lineEnd ++ blanks ++ raw).count '"' =
        lineEnd.count '"' + blanks.count '"' + raw.count '"' := by
      simp [Nat.add_assoc]
    have hzero := hlineEnd _ hend
    omega

/-- What is denoted is no longer than the literal, and if it is as long it is the literal. -/
theorem length_le (h : Denotes raw value) : value.length ≤ raw.length ∧
    (value.length = raw.length → raw = value ∧ Unescaped value) := by
  induction h with
  | nil => exact ⟨Nat.le_refl 0, fun _ => ⟨rfl, nofun⟩⟩
  | @char c raw value hc _ ih =>
    obtain ⟨hle, hsame⟩ := ih
    refine ⟨Nat.succ_le_succ hle, fun hlength => ?_⟩
    obtain ⟨rfl, hraw⟩ := hsame (Nat.succ.inj hlength)
    exact ⟨rfl, List.forall_mem_cons.mpr ⟨hc, hraw⟩⟩
  | lineBreak _ ih =>
    obtain ⟨hle, _⟩ := ih
    simp only [List.length_cons]
    omega
  | @escape spelling raw value c hescape _ ih =>
    obtain ⟨hle, _⟩ := ih
    have hspelling := hescape.length_pos
    simp only [List.cons_append, List.length_cons, List.length_append]
    omega
  | continuation _ _ _ _ ih =>
    obtain ⟨hle, _⟩ := ih
    simp only [List.cons_append, List.length_cons, List.length_append]
    omega

/-- **Literals around a text.** A literal that starts where a text starts, with nothing but its
blanks lost and a quotation mark behind it, denotes the text only if nothing was lost and nothing in
it had to be escaped: what ends earlier is too short for it, and what ends later has one quotation
mark too many. -/
theorem eq_of_sublist {before left rest more : List Char} (h : Denotes raw value)
    (hleft : left.Sublist (before ++ value))
    (hquotes : left.count '"' = (before ++ value).count '"')
    (htext : before ++ raw ++ '"' :: rest = left ++ '"' :: more) :
    left = before ++ value ∧ raw = value ∧ Unescaped value := by
  obtain ⟨hle, hsame⟩ := h.length_le
  have hcount := h.count_quote_le
  have hshort := hleft.length_le
  rw [List.length_append] at hshort
  rcases Nat.lt_or_ge left.length (before ++ raw).length with hlonger | hends
  · exfalso
    have hmarked : left ++ ['"'] <+: left ++ '"' :: more := ⟨more, by simp⟩
    obtain ⟨t, ht⟩ : left ++ ['"'] <+: before ++ raw := by
      refine List.prefix_of_prefix_length_le hmarked ⟨'"' :: rest, htext⟩ ?_
      rwa [List.length_append, List.length_singleton]
    have hmarks := congrArg (List.count '"') ht
    simp only [List.count_append, List.count_singleton_self] at hmarks hquotes
    omega
  · rw [List.length_append] at hends
    have hlength : value.length = raw.length := by omega
    obtain ⟨rfl, hunescaped⟩ := hsame hlength
    have heq := hleft.eq_of_length (by rw [List.length_append]; omega)
    exact ⟨heq, rfl, hunescaped⟩

end Denotes

/-! ## Raw literals -/

/-- What stands before the first place where a text continues so, and what stands behind that. -/
def cutAt (closing : List Char) : List Char → Option (List Char × List Char)
  | [] => none
  | c :: r =>
    match closing.isPrefixOf? (c :: r) with
    | some rest => some ([], rest)
    | none => (cutAt closing r).map fun p => (c :: p.1, p.2)

/-- The value of the raw literal that a text starts with, and the text behind it. A carriage return
cannot stand in a literal. -/
def rawLiteral? : List Char → Option (List Char × List Char)
  | 'r' :: r =>
    let signs := r.takeWhile (· == '#')
    match r.drop signs.length with
    | '"' :: s => (cutAt ('"' :: signs) s).filter fun p => '\r' ∉ p.1
    | _ => none
  | _ => none

theorem isPrefixOf?_append (p r : List Char) : p.isPrefixOf? (p ++ r) = some r :=
  List.isPrefixOf?_eq_some_iff_append_eq.mpr rfl

theorem isPrefixOf?_eq_none {p l : List Char} (h : ¬ p <+: l) : p.isPrefixOf? l = none := by
  rw [← Option.not_isSome_iff_eq_none, List.isSome_isPrefixOf?_eq_isPrefixOf,
    List.isPrefixOf_iff_prefix]
  exact h

theorem cutAt_append {closing s : List Char} (hs : '"' ∉ s) (r : List Char) :
    cutAt ('"' :: closing) (s ++ '"' :: closing ++ r) = some (s, r) := by
  induction s with
  | nil =>
    rw [List.nil_append, List.cons_append, cutAt, ← List.cons_append, isPrefixOf?_append]
  | cons c s ih =>
    rw [List.mem_cons, not_or] at hs
    obtain ⟨hc, hs⟩ := hs
    have hopen : ('"' :: closing).isPrefixOf? (c :: (s ++ '"' :: closing ++ r)) = none := by
      simp [List.isPrefixOf?, hc]
    rw [List.cons_append, List.cons_append, cutAt, hopen]
    simp only [ih hs, Option.map_some]

/-- **A text without quotation marks is read back** from a raw literal with one number sign. -/
theorem rawLiteral?_append {s : List Char} (hquote : '"' ∉ s) (hreturn : '\r' ∉ s) (r : List Char) :
    rawLiteral? ("r#\"".toList ++ s ++ "\"#".toList ++ r) = some (s, r) := by
  have hread : rawLiteral? ("r#\"".toList ++ s ++ "\"#".toList ++ r) =
      (cutAt ['"', '#'] (s ++ ['"', '#'] ++ r)).filter fun p => '\r' ∉ p.1 := by
    simp [rawLiteral?]
  rw [hread, cutAt_append hquote, Option.filter_some_pos]
  simpa using hreturn

end SchemaSdk.Text
