import Mathlib.Data.List.TakeWhile
import SchemaSdk.Json.Known
import SchemaSdk.Proofs.Text.Words

/-!
# JSON read back

The compact text of a value whose numbers are natural is read as that value. A string is read up to
its closing quote, and a number up to what goes on with no number. An object of which all keys are
known is read as a record with all of its members.
-/
namespace SchemaSdk.Json

open SchemaSdk.Text

variable {c : Char} {s r rest : List Char}

/-! ## Strings -/

theorem charOfCodePoint?_toNat (c : Char) : charOfCodePoint? c.toNat = some c := by
  have hvalid : c.toNat.isValidChar := c.valid
  rw [charOfCodePoint?, if_pos hvalid, Char.ofNat_toNat]

/-- A unit that is a character is read as it, whether or not another unit follows. -/
theorem readString_unit {x y z w : Char} (h : unit? x y z w = some c.toNat)
    (hhigh : isHighHalf c.toNat = false) (hs : readString r = some (s, rest)) :
    readString ('\\' :: 'u' :: x :: y :: z :: w :: r) = some (c :: s, rest) := by
  by_cases hpair : ∃ e f g h r', r = '\\' :: 'u' :: e :: f :: g :: h :: r'
  · obtain ⟨e, f, g, h', r', rfl⟩ := hpair
    rw [readString, h]
    dsimp only
    rw [if_neg (by simp [hhigh]), charOfCodePoint?_toNat, hs]
    rfl
  · rw [readString, h, Option.bind_some, charOfCodePoint?_toNat, hs]
    · rfl
    · intro e f g h' r' hr
      exact hpair ⟨e, f, g, h', r', hr⟩

/-- The four digits by which the code point of a control character is written. -/
theorem hexValue?_padded : ∀ n < 0x20, ∀ ds,
    ds = (if n < 0x10 then ['0', '0', '0'] else ['0', '0']) ++ hexDigits n →
      ds.length = 4 ∧ hexValue? ds = some n := by
  have hpadded : ∀ n < 0x20,
      ((if n < 0x10 then ['0', '0', '0'] else ['0', '0']) ++ hexDigits n).length = 4 ∧
        hexValue? ((if n < 0x10 then ['0', '0', '0'] else ['0', '0']) ++ hexDigits n) = some n := by
    decide
  rintro n hn ds rfl
  exact hpadded n hn

theorem readString_padded (hc : c.toNat < 0x20) {ds : List Char}
    (hds : ds = (if c.toNat < 0x10 then ['0', '0', '0'] else ['0', '0']) ++ hexDigits c.toNat)
    (hs : readString r = some (s, rest)) :
    readString ('\\' :: 'u' :: (ds ++ r)) = some (c :: s, rest) := by
  obtain ⟨hlength, hvalue⟩ := hexValue?_padded c.toNat hc ds hds
  match ds, hlength with
  | [x, y, z, w], _ =>
    refine readString_unit hvalue ?_ hs
    simp only [isHighHalf, Bool.and_eq_false_iff, decide_eq_false_iff_not]
    omega

/-- A character is escaped by a letter that stands for it or by its code point, or is left as it
is. -/
theorem escapeChar_cases (c : Char) :
    (∃ e, escapeChar c = ['\\', e] ∧ simpleEscape? e = some c) ∨
    (c.toNat < 0x20 ∧ escapeChar c = '\\' :: 'u' ::
      ((if c.toNat < 0x10 then ['0', '0', '0'] else ['0', '0']) ++ hexDigits c.toNat)) ∨
    (c ≠ '"' ∧ c ≠ '\\' ∧ ¬ c.toNat < 0x20 ∧ escapeChar c = [c]) := by
  by_cases hletter : c ∈ ['"', '\\', '\n', '\r', '\t', '\x08', '\x0c']
  · simp only [List.mem_cons, List.not_mem_nil, or_false] at hletter
    rcases hletter with rfl | rfl | rfl | rfl | rfl | rfl | rfl
    all_goals exact .inl ⟨_, rfl, rfl⟩
  · simp only [List.mem_cons, List.not_mem_nil, or_false, not_or] at hletter
    obtain ⟨hquote, hbackslash, hfeed, hreturn, htab, hback, hform⟩ := hletter
    rw [escapeChar, if_neg hquote, if_neg hbackslash, if_neg hfeed, if_neg hreturn, if_neg htab,
      if_neg hback, if_neg hform]
    by_cases hshort : c.toNat < 0x10
    · rw [if_pos hshort, if_pos hshort]
      exact .inr (.inl ⟨Nat.lt_trans hshort (by decide), rfl⟩)
    · rw [if_neg hshort, if_neg hshort]
      by_cases hlong : c.toNat < 0x20
      · rw [if_pos hlong]
        exact .inr (.inl ⟨hlong, rfl⟩)
      · rw [if_neg hlong]
        exact .inr (.inr ⟨hquote, hbackslash, hlong, rfl⟩)

theorem readString_escapeChar (c : Char) (hs : readString r = some (s, rest)) :
    readString (escapeChar c ++ r) = some (c :: s, rest) := by
  rcases escapeChar_cases c with ⟨e, hescape, he⟩ | ⟨hcontrol, hescape⟩ |
    ⟨hquote, hbackslash, hvisible, hescape⟩
  · rw [hescape]
    exact readString_simple he hs
  · rw [hescape]
    exact readString_padded hcontrol rfl hs
  · rw [hescape, List.singleton_append, readString, if_neg, hs]
    · rfl
    · rintro (h | h)
      · exact hbackslash h
      · exact hvisible h
    · exact hquote
    · intro _ _ _ _ _ _ _ _ _ h
      exact absurd h hbackslash
    · intro _ _ _ _ _ h
      exact absurd h hbackslash
    · intro _ _ h
      exact absurd h hbackslash

/-- An escaped string is read up to the quote that ends it. -/
theorem readString_flatMap_escapeChar (s rest : List Char) :
    readString (s.flatMap escapeChar ++ '"' :: rest) = some (s, rest) := by
  induction s with
  | nil => rw [List.flatMap_nil, List.nil_append, readString]
  | cons c s ih =>
    rw [List.flatMap_cons, List.append_assoc]
    exact readString_escapeChar c ih

theorem stringChars_append (s : String) (rest : List Char) :
    stringChars s ++ rest = '"' :: (s.toList.flatMap escapeChar ++ '"' :: rest) := by
  simp [stringChars]

/-! ## Numbers -/

/-- A text that goes on with no number. -/
def EndsNumber (s : List Char) : Prop :=
  ∀ c ∈ s.head?, c.isDigit = false ∧ c ≠ '.' ∧ c ≠ 'e' ∧ c ≠ 'E'

theorem isDigit_toDigits (n : Nat) : ∀ d ∈ Nat.toDigits 10 n, d.isDigit = true :=
  fun _ hd => Nat.isDigit_of_mem_toDigits (by decide) (by decide) hd

/-- No natural number but zero starts with a zero. -/
theorem head?_toDigits_ne_zero {n : Nat} (h : n ≠ 0) : (Nat.toDigits 10 n).head? ≠ some '0' := by
  induction n using Nat.strong_induction_on with
  | _ n ih =>
    by_cases hn : n < 10
    · have hdigits : ∀ n < 10, n ≠ 0 → n.digitChar ≠ '0' := by decide
      rw [Nat.toDigits_of_lt_base hn]
      simpa using hdigits n hn h
    · have hbefore := ih (n / 10) (by omega) (by omega)
      rw [Nat.toDigits_of_base_le (by decide) (by omega),
        List.head?_append_of_ne_nil _ Nat.toDigits_ne_nil]
      exact hbefore

theorem readDigits_append {ds : List Char} (hne : ds ≠ []) (hdigits : ∀ d ∈ ds, d.isDigit = true)
    (hrest : ∀ c ∈ rest.head?, c.isDigit = false) : readDigits (ds ++ rest) = some (ds, rest) := by
  have htake : rest.takeWhile Char.isDigit = [] := by
    cases rest with
    | nil => rfl
    | cons c r => simp [hrest c rfl]
  have hdrop : rest.dropWhile Char.isDigit = rest := by
    cases rest with
    | nil => rfl
    | cons c r => simp [hrest c rfl]
  rw [readDigits, List.takeWhile_append_of_pos hdigits, htake, List.append_nil,
    List.dropWhile_append_of_pos hdigits, hdrop]
  cases ds with
  | nil => exact absurd rfl hne
  | cons d ds => rfl

theorem readWhole_toDigits (n : Nat) (hrest : EndsNumber rest) :
    readWhole (Nat.toDigits 10 n ++ rest) = some (Nat.toDigits 10 n, rest) := by
  have hends : ∀ c ∈ rest.head?, c.isDigit = false := fun c hc => (hrest c hc).1
  by_cases hzero : n = 0
  · subst hzero
    rw [Nat.toDigits_zero]
    cases rest with
    | nil => rfl
    | cons c r => simp [readWhole, hends c rfl]
  · have hread := readDigits_append (Nat.toDigits_ne_nil (n := n)) (isDigit_toDigits n) hends
    have hhead := head?_toDigits_ne_zero hzero
    cases hds : Nat.toDigits 10 n with
    | nil => exact absurd hds Nat.toDigits_ne_nil
    | cons d ds =>
      rw [hds] at hread hhead
      rw [List.cons_append] at hread ⊢
      rw [readWhole, hread]
      intro c r hd
      rw [(List.cons.inj hd).1] at hhead
      exact hhead rfl

/-- A natural number is read up to what goes on with no number. -/
theorem readNumber_toDigits (n : Nat) (hrest : EndsNumber rest) :
    readNumber (Nat.toDigits 10 n ++ rest) = some (Nat.toDigits 10 n, rest) := by
  have hwhole := readWhole_toDigits n hrest
  have hfraction : readFraction rest = some ([], rest) := by
    cases rest with
    | nil => rfl
    | cons c r =>
      rw [readFraction]
      intro _ h
      exact (hrest c rfl).2.1 (List.cons.inj h).1
  have hexponent : readExponent rest = some ([], rest) := by
    cases rest with
    | nil => rfl
    | cons c r =>
      unfold readExponent
      dsimp only
      rw [if_neg]
      rintro (h | h)
      · exact (hrest c rfl).2.2.1 h
      · exact (hrest c rfl).2.2.2 h
  have hdigits := isDigit_toDigits n
  cases hds : Nat.toDigits 10 n with
  | nil => exact absurd hds Nat.toDigits_ne_nil
  | cons d ds =>
    rw [hds] at hwhole hdigits
    have hsign : d ≠ '-' := by
      rintro rfl
      exact absurd (hdigits '-' List.mem_cons_self) (by decide)
    unfold readNumber
    split
    next heq =>
      split at heq
      · next hminus => exact absurd (List.cons.inj hminus).1 hsign
      · cases heq
        simp only [hwhole, hfraction, hexponent, Option.bind_eq_bind, Option.bind_some,
          List.append_nil, List.nil_append, Option.pure_def]

theorem numberIn?_append (base : Nat) (ds : List Char) (d : Char) :
    numberIn? base (ds ++ [d]) = (numberIn? base ds).bind fun n =>
      (hexDigit? d).bind fun x => if x < base then some (n * base + x) else none := by
  rw [numberIn?, List.foldlM_append, numberIn?]
  cases ds.foldlM (fun n d => (hexDigit? d).bind fun x =>
      if x < base then some (n * base + x) else none) 0 with
  | none => rfl
  | some n =>
    simp only [Option.bind_eq_bind, Option.bind_some, List.foldlM_cons, List.foldlM_nil]
    exact Option.bind_fun_some _

/-- The digits of a natural number denote it. -/
theorem numberIn?_toDigits (n : Nat) : numberIn? 10 (Nat.toDigits 10 n) = some n := by
  have hdigit : ∀ n < 10, hexDigit? n.digitChar = some n := by decide
  induction n using Nat.strong_induction_on with
  | _ n ih =>
    by_cases hn : n < 10
    · rw [Nat.toDigits_of_lt_base hn, ← List.nil_append [_], numberIn?_append]
      simp [numberIn?, hdigit n hn, hn]
    · have hlast : n % 10 < 10 := Nat.mod_lt n (by decide)
      rw [Nat.toDigits_of_base_le (by decide) (by omega), numberIn?_append,
        ih (n / 10) (by omega), Option.bind_some, hdigit _ hlast, Option.bind_some, if_pos hlast]
      congr 1
      omega

theorem natural?_toDigits {n : Nat} (h : n < wordBound) :
    natural? (Nat.toDigits 10 n) = some n := by
  rw [natural?, numberIn?_toDigits]
  simp [h]

/-! ## Values -/

/-- A value whose numbers are all natural. -/
inductive Plain : Json → Prop
  | null : Plain null
  | bool (b : Bool) : Plain (bool b)
  | ofNat (n : Nat) : Plain (ofNat n)
  | string (s : String) : Plain (string s)
  | array (items : List Json) (h : ∀ v ∈ items, Plain v) : Plain (array items)
  | object (members : List (String × Json)) (h : ∀ m ∈ members, Plain m.2) : Plain (object members)

/-- The text of a value starts with it, and does not end a list. -/
theorem Plain.chars_eq_cons {v : Json} (h : v.Plain) :
    ∃ c t, v.chars = c :: t ∧ isSpace c = false ∧ c ≠ ']' := by
  cases h with
  | null => exact ⟨'n', _, rfl, rfl, by decide⟩
  | bool b => cases b <;> exact ⟨_, _, rfl, rfl, by decide⟩
  | ofNat n =>
    have hdigits := isDigit_toDigits n
    cases hds : Nat.toDigits 10 n with
    | nil => exact absurd hds Nat.toDigits_ne_nil
    | cons d ds =>
      rw [hds] at hdigits
      have hd := hdigits d List.mem_cons_self
      refine ⟨d, ds, hds, ?_, ?_⟩
      · by_contra hspace
        simp only [isSpace, Bool.not_eq_false, Bool.or_eq_true, beq_iff_eq] at hspace
        rcases hspace with ((rfl | rfl) | rfl) | rfl <;> exact absurd hd (by decide)
      · rintro rfl
        exact absurd hd (by decide)
  | string s => exact ⟨'"', _, rfl, rfl, by decide⟩
  | array items => cases items <;> exact ⟨'[', _, rfl, rfl, by decide⟩
  | object members => cases members <;> exact ⟨'\x7b', _, rfl, rfl, by decide⟩

/-- The text of a value reads as the value, whatever follows that goes on with no number. -/
def ReadBack (v : Json) : Prop :=
  ∀ fuel rest, v.chars.length ≤ fuel → EndsNumber rest →
    readValue fuel (v.chars ++ rest) = some (v, rest)

theorem endsNumber_cons (h : c.isDigit = false ∧ c ≠ '.' ∧ c ≠ 'e' ∧ c ≠ 'E') :
    EndsNumber (c :: s) := by
  rintro _ ⟨⟩
  exact h

theorem endsNumber_itemChars (vs : List Json) (rest : List Char) :
    EndsNumber (itemChars vs ++ rest) := by
  cases vs <;> exact endsNumber_cons (by decide)

theorem endsNumber_memberChars (ms : List (String × Json)) (rest : List Char) :
    EndsNumber (memberChars ms ++ rest) := by
  cases ms <;> exact endsNumber_cons (by decide)

/-- The items of an array are read up to its end. -/
theorem readItems_chars {v : Json} {vs : List Json} (h : ∀ w ∈ v :: vs, w.ReadBack) (fuel : Nat)
    (rest : List Char) (hfuel : (v.chars ++ itemChars vs).length ≤ fuel) :
    readItems fuel (v.chars ++ (itemChars vs ++ rest)) = some (v :: vs, rest) := by
  induction vs generalizing v fuel with
  | nil =>
    simp only [itemChars, List.length_append, List.length_singleton] at hfuel
    obtain ⟨fuel, rfl⟩ := Nat.exists_eq_succ_of_ne_zero (n := fuel) (by omega)
    have hv := h v List.mem_cons_self fuel _ (by omega) (endsNumber_itemChars [] rest)
    rw [readItems, hv]
    rfl
  | cons w vs ih =>
    simp only [itemChars, List.cons_append, List.length_append, List.length_cons] at hfuel
    obtain ⟨fuel, rfl⟩ := Nat.exists_eq_succ_of_ne_zero (n := fuel) (by omega)
    obtain ⟨hv, hrest⟩ := List.forall_mem_cons.mp h
    have hw := ih hrest fuel (by rw [List.length_append]; omega)
    rw [readItems, hv fuel _ (by omega) (endsNumber_itemChars (w :: vs) rest)]
    simp only [itemChars, List.cons_append, List.append_assoc, skipSpace_cons (c := ',') rfl, hw,
      Option.map_some]

theorem readMembers_last {fuel : Nat} (k : String) {v : Json}
    (hv : readValue fuel r = some (v, '\x7d' :: rest)) :
    readMembers (fuel + 1) (stringChars k ++ ':' :: r) = some ([(k, v)], rest) := by
  simp only [readMembers, stringChars_append, skipSpace_cons (c := '"') rfl,
    readString_flatMap_escapeChar, skipSpace_cons (c := ':') rfl, hv,
    skipSpace_cons (c := '\x7d') rfl, String.ofList_toList]

theorem readMembers_more {fuel : Nat} (k : String) {v : Json} {ms : List (String × Json)}
    (hv : readValue fuel r = some (v, ',' :: s)) (hms : readMembers fuel s = some (ms, rest)) :
    readMembers (fuel + 1) (stringChars k ++ ':' :: r) = some ((k, v) :: ms, rest) := by
  simp only [readMembers, stringChars_append, skipSpace_cons (c := '"') rfl,
    readString_flatMap_escapeChar, skipSpace_cons (c := ':') rfl, hv,
    skipSpace_cons (c := ',') rfl, hms, String.ofList_toList, Option.map_some]

/-- The members of an object are read up to its end. -/
theorem readMembers_chars {k : String} {v : Json} {ms : List (String × Json)}
    (h : ∀ m ∈ (k, v) :: ms, m.2.ReadBack) (fuel : Nat) (rest : List Char)
    (hfuel : (v.chars ++ memberChars ms).length ≤ fuel) :
    readMembers fuel (stringChars k ++ (':' :: (v.chars ++ (memberChars ms ++ rest)))) =
      some ((k, v) :: ms, rest) := by
  induction ms generalizing k v fuel with
  | nil =>
    simp only [memberChars, List.length_append, List.length_singleton] at hfuel
    obtain ⟨fuel, rfl⟩ := Nat.exists_eq_succ_of_ne_zero (n := fuel) (by omega)
    have hv : readValue fuel (v.chars ++ '\x7d' :: rest) = some (v, '\x7d' :: rest) :=
      h (k, v) List.mem_cons_self fuel _ (Nat.le_of_succ_le_succ hfuel)
        (endsNumber_memberChars [] rest)
    exact readMembers_last k hv
  | cons m ms ih =>
    obtain ⟨k', v'⟩ := m
    simp only [memberChars, List.cons_append, List.length_append, List.length_cons] at hfuel
    obtain ⟨fuel, rfl⟩ := Nat.exists_eq_succ_of_ne_zero (n := fuel) (by omega)
    obtain ⟨hv, hrest⟩ := List.forall_mem_cons.mp h
    have hv' := hv fuel _ (Nat.le_trans (Nat.le_add_right _ _) (Nat.le_of_succ_le_succ hfuel))
      (endsNumber_memberChars ((k', v') :: ms) rest)
    have hms := ih hrest fuel (by rw [List.length_append]; omega)
    simp only [memberChars, List.cons_append, List.append_assoc] at hv' ⊢
    exact readMembers_more k hv' hms

/-! ### Kinds of values -/

variable {fuel : Nat}

theorem readValue_ofNat (n : Nat) (hrest : EndsNumber rest) :
    readValue (fuel + 1) (Nat.toDigits 10 n ++ rest) = some (ofNat n, rest) := by
  have hnumber := readNumber_toDigits n hrest
  have hdigits := isDigit_toDigits n
  obtain ⟨d, t, hchars, hspace, _⟩ := (Plain.ofNat n).chars_eq_cons
  rw [chars.eq_def, ofNat] at hchars
  dsimp only at hchars
  rw [hchars] at hdigits hnumber
  have hd := hdigits d List.mem_cons_self
  rw [hchars, readValue, List.cons_append, skipSpace_cons hspace]
  rw [List.cons_append] at hnumber
  split
  case h_7 => rw [hnumber, Option.map_some, ofNat, hchars]
  all_goals
    next heq =>
      rw [(List.cons.inj heq).1] at hd
      exact absurd hd (by decide)

/-- The text of a value is not empty, so that reading it takes at least one step. -/
theorem Plain.readBack_of_succ {v : Json} (h : v.Plain)
    (hread : ∀ fuel rest, v.chars.length ≤ fuel + 1 → EndsNumber rest →
      readValue (fuel + 1) (v.chars ++ rest) = some (v, rest)) : v.ReadBack := by
  intro fuel rest hfuel hrest
  obtain ⟨c, t, hchars, _⟩ := h.chars_eq_cons
  have hlength := congrArg List.length hchars
  rw [List.length_cons] at hlength
  obtain ⟨fuel, rfl⟩ := Nat.exists_eq_succ_of_ne_zero (n := fuel) (by omega)
  exact hread fuel rest hfuel hrest

/-- **The text of a plain value is read as the value.** -/
theorem Plain.readBack {v : Json} (h : v.Plain) : v.ReadBack := by
  induction h with
  | null => exact Plain.null.readBack_of_succ fun _ _ _ _ => rfl
  | bool b => exact (Plain.bool b).readBack_of_succ fun _ _ _ _ => by cases b <;> rfl
  | ofNat n => exact (Plain.ofNat n).readBack_of_succ fun _ _ _ hrest => readValue_ofNat n hrest
  | string s =>
    refine (Plain.string s).readBack_of_succ fun fuel rest _ _ => ?_
    simp only [readValue, chars, stringChars_append, skipSpace_cons (c := '"') rfl,
      readString_flatMap_escapeChar, Option.map_some, String.ofList_toList]
  | array items h ih =>
    refine (Plain.array items h).readBack_of_succ fun fuel rest hfuel _ => ?_
    cases items with
    | nil => rfl
    | cons v vs =>
      rw [chars, List.cons_append, List.length_cons] at hfuel
      have hitems := readItems_chars ih fuel rest (Nat.le_of_succ_le_succ hfuel)
      obtain ⟨c, t, hchars, hspace, hend⟩ := (h v List.mem_cons_self).chars_eq_cons
      have hskip : skipSpace (v.chars ++ (itemChars vs ++ rest)) =
          v.chars ++ (itemChars vs ++ rest) := by
        rw [hchars, List.cons_append, skipSpace_cons hspace]
      rw [chars, List.cons_append, List.cons_append, List.append_assoc]
      refine readValue_array (fun t' heq => ?_) (by rw [hskip, hitems])
      rw [hskip, hchars] at heq
      exact hend (List.cons.inj heq).1
  | object members h ih =>
    refine (Plain.object members h).readBack_of_succ fun fuel rest hfuel _ => ?_
    cases members with
    | nil => rfl
    | cons m ms =>
      obtain ⟨k, v⟩ := m
      simp only [chars, List.cons_append, List.length_cons, List.length_append] at hfuel
      have hmembers := readMembers_chars ih fuel rest (by rw [List.length_append]; omega)
      have hskip : skipSpace (stringChars k ++ ':' :: (v.chars ++ (memberChars ms ++ rest))) =
          stringChars k ++ ':' :: (v.chars ++ (memberChars ms ++ rest)) := by
        rw [stringChars_append, skipSpace_cons (by decide)]
      simp only [chars, List.cons_append, List.append_assoc]
      refine readValue_object (fun t' heq => ?_) (by rw [hskip, hmembers])
      rw [hskip, stringChars_append] at heq
      exact absurd (List.cons.inj heq).1 (by decide)

/-- A plain value is what its text says. -/
theorem Plain.ofText?_text {v : Json} (h : v.Plain) : ofText? v.text.toList = some v := by
  have hread := h.readBack (2 * v.chars.length + 1) [] (by omega) (by rintro _ ⟨⟩)
  rw [List.append_nil] at hread
  rw [text, String.toList_ofList, ofText?, hread]
  rfl

/-! ## Records -/

/-- Where all is text, reading is what it is for texts. -/
theorem reading_map_some {α : Type} (read : List Char → Option (α × List Char)) (s : List Char) :
    reading read (s.map some) = (read s).map fun (a, rest) => (a, rest.map some) := by
  have htake : (s.map some).takeWhile Option.isSome = s.map some := by
    rw [List.takeWhile_eq_self_iff]
    simp
  have hdrop : (s.map some).dropWhile Option.isSome = [] := by
    rw [List.dropWhile_eq_nil_iff]
    simp
  have hchars : (s.map some).filterMap id = s := by
    rw [List.filterMap_map]
    exact List.filterMap_some
  rw [reading, htake, hdrop, hchars]
  simp

theorem passSpace_map_some (s : List Char) : passSpace (s.map some) = (skipSpace s).map some := by
  rw [passSpace, skipSpace, List.dropWhile_map]
  rfl

/-- If all keys of an object are known, the members that are known are its members. -/
theorem readKnown_of_readMembers {keys : List String} {ms : List (String × Json)}
    (h : readMembers fuel s = some (ms, rest)) (hkeys : ∀ m ∈ ms, m.1 ∈ keys) :
    readKnown keys fuel (s.map some) = some (ms, rest.map some) := by
  induction fuel generalizing s ms with
  | zero => cases h
  | succ fuel ih =>
    rw [readMembers] at h
    split at h
    case h_2 => cases h
    case h_1 r hquote =>
    split at h
    case h_1 => cases h
    case h_2 k r' hkey =>
    split at h
    case h_2 => cases h
    case h_1 r'' hcolon =>
    split at h
    case h_1 => cases h
    case h_2 v t hvalue =>
    have hmember : String.ofList k ∈ keys → readKnownValue keys fuel (String.ofList k)
        (r''.map some) = some ([(String.ofList k, v)], t.map some) := by
      intro hk
      rw [readKnownValue, if_pos (List.contains_iff_mem.mpr hk), reading_map_some, hvalue]
      rfl
    rw [readKnown, passSpace_map_some, hquote]
    simp only [List.map_cons, reading_map_some, hkey, Option.map_some, passSpace_map_some, hcolon]
    split at h
    case h_1 t' hcomma =>
      obtain ⟨⟨more, rest'⟩, hmore, heq⟩ := Option.map_eq_some_iff.mp h
      cases heq
      obtain ⟨hk, hms⟩ := List.forall_mem_cons.mp hkeys
      simp only [hmember hk, passSpace_map_some, hcomma, List.map_cons, ih hmore hms,
        Option.map_some, List.singleton_append]
    case h_2 t' hend =>
      cases h
      have hk := hkeys _ List.mem_cons_self
      simp only [hmember hk, passSpace_map_some, hend, List.map_cons]
    case h_3 => cases h

theorem readRecord_object {keys : List String} {least : Nat} {r rest : Scanned}
    {ms : List (String × Json)} (hopen : ∀ t, passSpace r ≠ some '\x7d' :: t)
    (hmembers : readKnown keys (2 * (r.length + 1)) (passSpace r) = some (ms, rest))
    (hnodup : (ms.map (·.1)).Nodup) :
    readRecord keys least (some '\x7b' :: r) = some (ms, rest) := by
  have hskip : passSpace (some '\x7b' :: r) = some '\x7b' :: r := rfl
  simp only [readRecord, hskip, List.length_cons, hmembers]
  rw [Option.filter_some, if_pos (by simpa using hnodup)]

/-- The text of a plain object with known keys, each of them once, says its members. -/
theorem Plain.wholeRecord?_text {keys : List String} {least : Nat} {ms : List (String × Json)}
    (h : (Json.object ms).Plain) (hkeys : ∀ m ∈ ms, m.1 ∈ keys) (hnodup : (ms.map (·.1)).Nodup) :
    wholeRecord? keys least ((Json.object ms).text.toList.map some) = some ms := by
  have hback : ∀ m ∈ ms, m.2.ReadBack := by
    cases h with
    | object _ hms => exact fun m hm => (hms m hm).readBack
  rw [text, String.toList_ofList]
  cases ms with
  | nil => rfl
  | cons m ms =>
    obtain ⟨k, v⟩ := m
    obtain ⟨t, ht⟩ : ∃ t, stringChars k ++ ':' :: (v.chars ++ memberChars ms) = '"' :: t :=
      ⟨_, stringChars_append k _⟩
    have hchars : (Json.object ((k, v) :: ms)).chars = '\x7b' :: '"' :: t := by
      rw [← ht]
      simp only [chars, List.cons_append, List.append_assoc]
    have hmembers := readMembers_chars hback (2 * (t.length + 2)) [] (by
      have hlength := congrArg List.length ht
      simp only [List.length_append, List.length_cons] at hlength ⊢
      omega)
    rw [List.append_nil, ht] at hmembers
    have hrecord : readRecord keys least ((Json.object ((k, v) :: ms)).chars.map some) =
        some ((k, v) :: ms, []) := by
      rw [hchars, List.map_cons]
      refine readRecord_object (fun t' heq => ?_) ?_ hnodup
      · cases heq
      · rw [List.length_map]
        exact readKnown_of_readMembers hmembers hkeys
    rw [wholeRecord?, hrecord]
    rfl

end SchemaSdk.Json
