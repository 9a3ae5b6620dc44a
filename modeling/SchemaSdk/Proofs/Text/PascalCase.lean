import SchemaSdk.Proofs.Text.SnakeCase
import SchemaSdk.Proofs.Text.WordStarts

/-!
# Names in pascal case

Pascal case leaves a name as it is exactly if the name consists of letters and numbers and its words
are capitalized, that is, if every capital in it stands where a word starts. Not every name that is
written in pascal case is one that pascal case leaves: of the words `a` and `b` it makes `AB`, which
reads as one word. But a name whose words start with two letters is.
-/
namespace SchemaSdk.Text

/-! ## Letters of a changed case -/

/-- The letters and digits of ASCII. -/
def asciiAlphanumericRanges : List (Nat × Nat) := [(0x30, 0x39), (0x41, 0x5a), (0x61, 0x7a)]

theorem isAlphanumeric_eq_testBit (c : Char) : isAlphanumeric c =
    (bitsOf (asciiAlphanumericRanges ++ alphanumericRanges)).testBit c.toNat := by
  have hlow : bitsOf (asciiAlphanumericRanges ++ alphanumericRanges) % 2 ^ 0x80 =
      bitsOf asciiAlphanumericRanges := by decide +kernel
  by_cases hc : c.toNat < 0x80
  · rw [isAlphanumeric_of_ascii hc, testBit_of_ascii hlow hc]
    exact forall_ascii (P := fun c => c.isAlphanum =
      (bitsOf asciiAlphanumericRanges).testBit c.toNat) (by decide) c hc
  · have hascii : inRanges asciiAlphanumericRanges c.toNat = false := by
      simp only [asciiAlphanumericRanges, inRanges, List.any_cons, List.any_nil, Bool.or_false,
        Bool.or_eq_false_iff, Bool.and_eq_false_iff, decide_eq_false_iff_not]
      omega
    rw [isAlphanumeric, if_neg hc, testBit_bitsOf, inRanges_append, hascii, Bool.false_or]

/-- What a letter or number becomes has letters or numbers in it, and is the character itself if it
has no other than it. -/
structure KeepsLetter (c : Char) (cs : List Char) : Prop where
  ne_nil : letters cs ≠ []
  eq_self : letters cs = [c] → cs = [c]

namespace KeepsLetter

variable {c d : Char}

theorem of_isAlphanumeric (hd : isAlphanumeric d = true) : KeepsLetter c [d] := by
  constructor
  · simp [letters, hd]
  · simp [letters, hd]

/-- A table of sound shifts to letters keeps letters. -/
theorem of_shifted? {table : List Shift} (hc : isAlphanumeric c = true)
    (h : ∀ s ∈ table, s.isSound = true ∧
      s.imageRun.isInside (asciiAlphanumericRanges ++ alphanumericRanges) = true) :
    KeepsLetter c [((shifted? table c.toNat).map Char.ofNat).getD c] := by
  rw [shifted?]
  cases hfound : table.find? (·.run.contains c.toNat) with
  | none => exact of_isAlphanumeric hc
  | some s =>
    have hrun := List.find?_some hfound
    obtain ⟨hsound, hinside⟩ := h s (List.mem_of_find?_eq_some hfound)
    refine of_isAlphanumeric ?_
    simp only [Option.map_some, Option.getD_some]
    rw [isAlphanumeric_eq_testBit, Shift.toNat_ofNat_image hsound hrun, testBit_bitsOf,
      Run.inRanges_of_isInside hinside (Shift.contains_imageRun hrun)]

theorem lowercase (hc : isAlphanumeric c = true) : KeepsLetter c (lowercase c) := by
  have hshifts : ∀ s ∈ lowercaseShifts, s.isSound = true ∧
      s.imageRun.isInside (asciiAlphanumericRanges ++ alphanumericRanges) = true := by
    decide +kernel
  unfold Text.lowercase
  split
  · next hascii =>
    rw [isAlphanumeric_of_ascii hascii] at hc
    have hlower : c.toLower.toNat < 0x80 :=
      forall_ascii (P := fun c => c.toLower.toNat < 0x80) (by decide) c hascii
    exact of_isAlphanumeric (by rw [isAlphanumeric_of_ascii hlower, isAlphanum_toLower hascii hc])
  split
  · next hdotted =>
    obtain rfl : c = '\u0130' := Char.toNat_inj.mp hdotted
    exact ⟨by decide, by decide⟩
  · exact of_shifted? hc hshifts

theorem uppercase (hc : isAlphanumeric c = true) : KeepsLetter c (uppercase c) := by
  have hshifts : ∀ s ∈ uppercaseShifts, s.isSound = true ∧
      s.imageRun.isInside (asciiAlphanumericRanges ++ alphanumericRanges) = true := by
    decide +kernel
  have hheads : ∀ e ∈ uppercaseExpansions,
      (e.2.map Char.ofNat).head?.any isAlphanumeric = true := by
    simp only [funext isAlphanumeric_eq_testBit]
    decide +kernel
  have hothers : ∀ e ∈ uppercaseExpansions, Char.ofNat e.1 ∉ e.2.map Char.ofNat := by
    decide
  unfold Text.uppercase
  split
  · next hascii =>
    rw [isAlphanumeric_of_ascii hascii] at hc
    have hupper : c.toUpper.toNat < 0x80 :=
      forall_ascii (P := fun c => c.toUpper.toNat < 0x80) (by decide) c hascii
    exact of_isAlphanumeric (by rw [isAlphanumeric_of_ascii hupper, isAlphanum_toUpper hascii hc])
  split
  · next image hfound =>
    have hmem := List.mem_of_find?_eq_some hfound
    have hcode := List.find?_some hfound
    rw [beq_iff_eq] at hcode
    have hother := hothers _ hmem
    have hhead := hheads _ hmem
    rw [hcode, Char.ofNat_toNat] at hother
    constructor
    · cases himage : image.map Char.ofNat with
      | nil => simp [himage] at hhead
      | cons d r =>
        rw [himage, List.head?_cons, Option.any_some] at hhead
        simp [letters, hhead]
    · intro hletters
      have hself : c ∈ letters (image.map Char.ofNat) := by simp [hletters]
      exact absurd (List.mem_of_mem_filter hself) hother
  · exact of_shifted? hc hshifts

end KeepsLetter

/-! ## Capitalized words -/

/-- The first character of a word is in upper case, as far as it has one, and the others in lower
case. -/
def IsCapitalized (v : List Char) : Prop :=
  ∃ c r, v = c :: r ∧ uppercase c = [c] ∧ ∀ d ∈ r, lowercase d = [d]

theorem lowercaseWord_eq_self {v : List Char} (h : ∀ d ∈ v, lowercase d = [d]) :
    lowercaseWord v = v := by
  fun_induction lowercaseWord v with
  | case1 => rfl
  | case2 => exact absurd (h 'Σ' List.mem_cons_self) (by decide)
  | case3 c r _ ih =>
    obtain ⟨hc, hr⟩ := List.forall_mem_cons.mp h
    rw [hc, ih hr, List.singleton_append]

theorem IsCapitalized.capitalizedWord_eq {v : List Char} (h : IsCapitalized v) :
    capitalizedWord v = v := by
  obtain ⟨c, r, rfl, hc, hr⟩ := h
  rw [capitalizedWord, hc, lowercaseWord_eq_self hr, List.singleton_append]

/-- Two texts whose parts are at least as long as those of the same text have these parts. -/
theorem append_inj_of_length_le {a b s t : List Char} (h : a ++ b = s ++ t)
    (ha : s.length ≤ a.length) (hb : t.length ≤ b.length) : a = s ∧ b = t := by
  have hlength := congrArg List.length h
  rw [List.length_append, List.length_append] at hlength
  exact List.append_inj h (by omega)

section Letters

variable {v : List Char}

theorem length_letters_lowercaseWord (h : ∀ c ∈ v, isAlphanumeric c = true) :
    v.length ≤ (letters (lowercaseWord v)).length := by
  fun_induction lowercaseWord v with
  | case1 => exact Nat.le_refl 0
  | case2 => decide
  | case3 c r _ ih =>
    obtain ⟨hc, hr⟩ := List.forall_mem_cons.mp h
    have hfirst := List.length_pos_iff.mpr (KeepsLetter.lowercase hc).ne_nil
    have hrest := ih hr
    rw [letters, List.filter_append, ← letters, ← letters, List.length_append, List.length_cons]
    omega

theorem lowercase_eq_self_of_letters (h : ∀ c ∈ v, isAlphanumeric c = true)
    (hletters : letters (lowercaseWord v) = v) : ∀ c ∈ v, lowercase c = [c] := by
  fun_induction lowercaseWord v with
  | case1 => simp
  | case2 => exact absurd hletters (by decide)
  | case3 c r _ ih =>
    obtain ⟨hc, hr⟩ := List.forall_mem_cons.mp h
    have hfirst := List.length_pos_iff.mpr (KeepsLetter.lowercase hc).ne_nil
    rw [letters, List.filter_append, ← letters, ← letters] at hletters
    obtain ⟨hself, hrest⟩ := append_inj_of_length_le (s := [c]) (t := r) hletters hfirst
      (length_letters_lowercaseWord hr)
    exact List.forall_mem_cons.mpr ⟨(KeepsLetter.lowercase hc).eq_self hself, ih hr hrest⟩

theorem length_letters_capitalizedWord (h : ∀ c ∈ v, isAlphanumeric c = true) :
    v.length ≤ (letters (capitalizedWord v)).length := by
  cases v with
  | nil => exact Nat.le_refl 0
  | cons c r =>
    obtain ⟨hc, hr⟩ := List.forall_mem_cons.mp h
    have hfirst := List.length_pos_iff.mpr (KeepsLetter.uppercase hc).ne_nil
    have hrest := length_letters_lowercaseWord hr
    rw [capitalizedWord, letters, List.filter_append, ← letters, ← letters, List.length_append,
      List.length_cons]
    omega

theorem isCapitalized_of_letters (hv : v ≠ []) (h : ∀ c ∈ v, isAlphanumeric c = true)
    (hletters : letters (capitalizedWord v) = v) : IsCapitalized v := by
  obtain ⟨c, r, rfl⟩ := List.exists_cons_of_ne_nil hv
  obtain ⟨hc, hr⟩ := List.forall_mem_cons.mp h
  have hfirst := List.length_pos_iff.mpr (KeepsLetter.uppercase hc).ne_nil
  rw [capitalizedWord, letters, List.filter_append, ← letters, ← letters] at hletters
  obtain ⟨hself, hrest⟩ := append_inj_of_length_le (s := [c]) (t := r) hletters hfirst
    (length_letters_lowercaseWord hr)
  exact ⟨c, r, rfl, (KeepsLetter.uppercase hc).eq_self hself, lowercase_eq_self_of_letters hr hrest⟩

/-- Words that have the same letters when they are capitalized are capitalized. -/
theorem isCapitalized_of_letters_flatMap {ws : List (List Char)} (hne : ∀ v ∈ ws, v ≠ [])
    (h : ∀ v ∈ ws, ∀ c ∈ v, isAlphanumeric c = true)
    (hletters : letters (ws.flatMap capitalizedWord) = ws.flatten) :
    ∀ v ∈ ws, IsCapitalized v := by
  have hlength : ∀ ws : List (List Char), (∀ v ∈ ws, ∀ c ∈ v, isAlphanumeric c = true) →
      ws.flatten.length ≤ (letters (ws.flatMap capitalizedWord)).length := by
    intro ws hws
    induction ws with
    | nil => exact Nat.le_refl 0
    | cons v ws ih =>
      obtain ⟨hv, hws⟩ := List.forall_mem_cons.mp hws
      have hfirst := length_letters_capitalizedWord hv
      have hrest := ih hws
      rw [List.flatMap_cons, letters, List.filter_append, ← letters, ← letters, List.flatten_cons,
        List.length_append, List.length_append]
      omega
  induction ws with
  | nil => simp
  | cons v ws ih =>
    obtain ⟨hv, hws⟩ := List.forall_mem_cons.mp h
    obtain ⟨hvne, hwsne⟩ := List.forall_mem_cons.mp hne
    rw [List.flatMap_cons, letters, List.filter_append, ← letters, ← letters,
      List.flatten_cons] at hletters
    obtain ⟨hfirst, hrest⟩ := append_inj_of_length_le hletters
      (length_letters_capitalizedWord hv) (hlength ws hws)
    exact List.forall_mem_cons.mpr ⟨isCapitalized_of_letters hvne hv hfirst, ih hwsne hws hrest⟩

end Letters

/-- **A name that pascal case leaves as it is** consists of letters and numbers, and its words are
capitalized. -/
theorem pascalChars_eq_self_iff_words {s : List Char} :
    pascalChars s = s ↔ letters s = s ∧ ∀ v ∈ words s, IsCapitalized v := by
  constructor
  · intro h
    have hcapitalized : ∀ v ∈ words s, IsCapitalized v := by
      refine isCapitalized_of_letters_flatMap (fun v hv => ne_nil_of_mem_words hv)
        (fun v hv c hc => (mem_of_mem_words hv hc).2) ?_
      rw [← pascalChars, h, flatten_words]
    refine ⟨?_, hcapitalized⟩
    calc letters s = (words s).flatten := (flatten_words s).symm
      _ = pascalChars s := by
        rw [pascalChars, List.flatten_eq_flatMap]
        exact (List.flatMap_congr fun v hv => (hcapitalized v hv).capitalizedWord_eq).symm
      _ = s := h
  · rintro ⟨hletters, hcapitalized⟩
    calc pascalChars s = (words s).flatten := by
          rw [pascalChars, List.flatten_eq_flatMap]
          exact List.flatMap_congr fun v hv => (hcapitalized v hv).capitalizedWord_eq
      _ = s := by rw [flatten_words, hletters]

/-! ## Names that stay as they are -/

theorem isCapitalized_of_mem_cutFrom {w : WordCase} {word s v : List Char}
    (hword : IsCapitalized word.reverse)
    (h : ∀ before c after, s = before ++ c :: after → lowercase c ≠ [c] →
      StartsWord (before.foldl WordCase.after w) c after) (hv : v ∈ cutFrom w word s) :
    IsCapitalized v := by
  induction s generalizing w word with
  | nil =>
    rw [cutFrom] at hv
    split at hv
    · cases hv
    · rwa [List.mem_singleton.mp hv]
  | cons c r ih =>
    have hrest : ∀ before d after, r = before ++ d :: after → lowercase d ≠ [d] →
        StartsWord (before.foldl WordCase.after (w.after c)) d after := fun before d after heq =>
      h (c :: before) d after (by rw [heq, List.cons_append])
    rw [cutFrom] at hv
    split at hv
    · next hstarts =>
      rcases List.mem_cons.mp hv with rfl | hv
      · exact hword
      · exact ih ⟨c, [], rfl, uppercase_of_isUppercase hstarts.2.1, by simp⟩ hrest hv
    · next hstays =>
      obtain ⟨d, t, hwordEq, hd, ht⟩ := hword
      have hne : word ≠ [] := by
        rintro rfl
        cases hwordEq
      have hc : lowercase c = [c] := by
        by_contra hchanged
        exact hstays ⟨hne, h [] c r rfl hchanged⟩
      refine ih ⟨d, t ++ [c], by simp [hwordEq], hd, ?_⟩ hrest hv
      exact List.forall_mem_append.mpr ⟨ht, List.forall_mem_singleton.mpr hc⟩

theorem startsWord_of_cutFrom {w : WordCase} {word s : List Char} (hword : word ≠ [])
    (h : ∀ v ∈ cutFrom w word s, IsCapitalized v) {before after : List Char} {c : Char}
    (hs : s = before ++ c :: after) (hc : lowercase c ≠ [c]) :
    StartsWord (before.foldl WordCase.after w) c after := by
  induction before generalizing w word s with
  | nil =>
    subst hs
    by_contra hstays
    rw [List.foldl_nil] at hstays
    obtain ⟨v, vs, hcut⟩ := exists_cutFrom_eq_cons (List.cons_ne_nil c word) (w.after c) after
    have hfirst : IsCapitalized ((c :: word).reverse ++ v) := by
      refine h _ ?_
      rw [List.nil_append, cutFrom_cons_of_not hstays, hcut]
      exact List.mem_cons_self
    obtain ⟨d, r, heq, _, hr⟩ := hfirst
    obtain ⟨e, t, hreverse⟩ := List.exists_cons_of_ne_nil (List.reverse_ne_nil_iff.mpr hword)
    rw [List.reverse_cons, hreverse, List.cons_append, List.cons_append] at heq
    obtain ⟨_, rfl⟩ := List.cons.inj heq
    exact hc (hr c (by simp))
  | cons d before ih =>
    subst hs
    rw [List.cons_append, cutFrom] at h
    split at h
    · exact ih (List.cons_ne_nil d []) (List.forall_mem_cons.mp h).2 rfl
    · exact ih (List.cons_ne_nil d word) h rfl

/-- The name consists of letters and numbers; the first of them is in upper case, as far as it has
one, and every other that is in upper case starts a word. -/
structure IsPascal (s : List Char) : Prop where
  letters : ∀ c ∈ s, isAlphanumeric c = true
  first : ∀ c ∈ s.head?, uppercase c = [c]
  capitals : ∀ before c after, s = before ++ c :: after → before ≠ [] → lowercase c ≠ [c] →
    StartsWord (caseOf before) c after

/-- **Pascal case leaves a name as it is** exactly if its capitals are where words start. -/
theorem pascalChars_eq_self_iff {s : List Char} : pascalChars s = s ↔ IsPascal s := by
  rw [pascalChars_eq_self_iff_words]
  cases s with
  | nil => exact iff_of_true ⟨rfl, by simp [words, piecesFrom]⟩ ⟨by simp, by simp, by simp⟩
  | cons c r =>
    constructor
    · rintro ⟨hletters, hwords⟩
      have halnum : ∀ d ∈ c :: r, isAlphanumeric d = true := List.filter_eq_self.mp hletters
      rw [words_eq_cutFrom halnum, cutFrom, if_neg fun hboth => hboth.1 rfl] at hwords
      refine ⟨halnum, ?_, fun before d after heq hbefore hd => ?_⟩
      · obtain ⟨v, vs, hcut⟩ :=
          exists_cutFrom_eq_cons (List.cons_ne_nil c []) (WordCase.none.after c) r
        rw [hcut] at hwords
        obtain ⟨d, t, heq, hd, _⟩ := hwords ([c].reverse ++ v) List.mem_cons_self
        obtain ⟨rfl, _⟩ := List.cons.inj heq
        exact fun e he => Option.mem_some_iff.mp he ▸ hd
      · obtain ⟨e, before, rfl⟩ := List.exists_cons_of_ne_nil hbefore
        obtain ⟨rfl, rfl⟩ := List.cons.inj heq
        exact startsWord_of_cutFrom (List.cons_ne_nil c []) hwords rfl hd
    · rintro ⟨halnum, hfirst, hcapitals⟩
      refine ⟨List.filter_eq_self.mpr halnum, fun v hv => ?_⟩
      rw [words_eq_cutFrom halnum, cutFrom, if_neg fun hboth => hboth.1 rfl] at hv
      refine isCapitalized_of_mem_cutFrom ⟨c, [], rfl, hfirst c rfl, by simp⟩ ?_ hv
      intro before d after heq hd
      exact hcapitals (c :: before) d after (by rw [heq, List.cons_append])
        (List.cons_ne_nil c before) hd

/-! ## Words that start with two letters -/

/-- The word starts with two letters of ASCII and consists of letters and digits of ASCII. -/
def StartsWithLetters (v : List Char) : Prop :=
  (∃ a b r, v = a :: b :: r ∧ a.isAlpha = true ∧ b.isAlpha = true) ∧
    ∀ c ∈ v, c.toNat < 0x80 ∧ c.isAlphanum = true

theorem lowercaseWord_of_ascii {v : List Char} (h : ∀ c ∈ v, c.toNat < 0x80) :
    lowercaseWord v = v.map Char.toLower := by
  fun_induction lowercaseWord v with
  | case1 => rfl
  | case2 => exact absurd (h 'Σ' List.mem_cons_self) (by decide)
  | case3 c r _ ih =>
    obtain ⟨hc, hr⟩ := List.forall_mem_cons.mp h
    rw [lowercase_of_ascii hc, ih hr, List.map_cons, List.singleton_append]

/-- What is written in lower case keeps to lower case. -/
theorem foldl_after_map_toLower {v : List Char} (h : ∀ c ∈ v, c.toNat < 0x80) :
    (v.map Char.toLower).foldl WordCase.after .lower = .lower := by
  induction v with
  | nil => rfl
  | cons c r ih =>
    obtain ⟨hc, hr⟩ := List.forall_mem_cons.mp h
    have hlower : c.toLower.toNat < 0x80 ∧ c.toLower.isUpper = false :=
      ⟨forall_ascii (P := fun c => c.toLower.toNat < 0x80) (by decide) c hc, isUpper_toLower hc⟩
    have hafter : WordCase.lower.after c.toLower = .lower := by
      simp [WordCase.after, isUppercase_of_ascii hlower.1, hlower.2]
    rw [List.map_cons, List.foldl_cons, hafter, ih hr]

namespace StartsWithLetters

variable {v : List Char}

/-- A capitalized word is a capital and then in lower case, and ends in that case. -/
theorem exists_capitalizedWord_eq (h : StartsWithLetters v) :
    ∃ c r, capitalizedWord v = c :: r ∧ isUppercase c = true ∧ (∀ d ∈ r, lowercase d = [d]) ∧
      ∀ w, (c :: r).foldl WordCase.after w = .lower := by
  obtain ⟨⟨a, b, r, rfl, ha, hb⟩, hascii⟩ := h
  have hall : ∀ c ∈ a :: b :: r, c.toNat < 0x80 := fun c hc => (hascii c hc).1
  obtain ⟨ha', htail⟩ := List.forall_mem_cons.mp hall
  obtain ⟨hb', hr⟩ := List.forall_mem_cons.mp htail
  have hupper : a.toUpper.toNat < 0x80 ∧ (a.isAlpha = true → a.toUpper.isUpper = true) :=
    forall_ascii (P := fun c => c.toUpper.toNat < 0x80 ∧
      (c.isAlpha = true → c.toUpper.isUpper = true)) (by decide) a ha'
  have hlower : ∀ c : Char, c.toNat < 0x80 → c.toLower.toNat < 0x80 ∧
      c.toLower.toLower = c.toLower ∧ (c.isAlpha = true → c.toLower.isLower = true) :=
    forall_ascii (by decide)
  have hcapital : isUppercase a.toUpper = true := by
    rw [isUppercase_of_ascii hupper.1, hupper.2 ha]
  have hsecond : isLowercase b.toLower = true := by
    rw [isLowercase_of_ascii (hlower b hb').1, (hlower b hb').2.2 hb]
  refine ⟨a.toUpper, (b :: r).map Char.toLower, ?_, hcapital, fun d hd => ?_, fun w => ?_⟩
  · rw [capitalizedWord, uppercase_of_ascii ha', lowercaseWord_of_ascii htail,
      List.singleton_append]
  · obtain ⟨c, hc, rfl⟩ := List.mem_map.mp hd
    rw [lowercase_of_ascii (hlower c (htail c hc)).1, (hlower c (htail c hc)).2.1]
  · rw [List.map_cons, List.foldl_cons, List.foldl_cons, WordCase.after_of_isLowercase _ hsecond,
      foldl_after_map_toLower hr]

end StartsWithLetters

/-- The capitals of words that start with two letters start words, behind lower case and behind one
another. -/
theorem startsWord_flatMap_capitalizedWord {ws : List (List Char)}
    (h : ∀ v ∈ ws, StartsWithLetters v) {w : WordCase} {before after : List Char} {c : Char}
    (heq : ws.flatMap capitalizedWord = before ++ c :: after) (hc : lowercase c ≠ [c])
    (hw : before = [] → w = .lower) : StartsWord (before.foldl WordCase.after w) c after := by
  induction ws generalizing w before with
  | nil => simp at heq
  | cons v ws ih =>
    obtain ⟨hv, hws⟩ := List.forall_mem_cons.mp h
    obtain ⟨d, r, hcap, hd, hr, hcase⟩ := hv.exists_capitalizedWord_eq
    rw [List.flatMap_cons, hcap] at heq
    cases before with
    | nil =>
      obtain ⟨rfl, _⟩ := List.cons.inj heq
      exact ⟨hd, .inl (hw rfl)⟩
    | cons e before =>
      rw [List.cons_append, List.cons_append, List.cons.injEq] at heq
      obtain ⟨rfl, htail⟩ := heq
      -- A capital behind the first one of a word belongs to a later word.
      have hlater : ∃ rest, before = r ++ rest ∧
          ws.flatMap capitalizedWord = rest ++ c :: after := by
        rcases List.append_eq_append_iff.mp htail with hbehind | ⟨rest, hinside, hafter⟩
        · exact hbehind
        · cases rest with
          | nil => exact ⟨[], by simp [hinside], by simpa using hafter.symm⟩
          | cons e rest =>
            obtain ⟨rfl, _⟩ := List.cons.inj hafter
            exact absurd (hr c (by simp [hinside])) hc
      obtain ⟨rest, rfl, hrest⟩ := hlater
      rw [← List.cons_append, List.foldl_append, hcase]
      exact ih hws hrest fun _ => rfl

/-- **Words of at least two letters** are found again in pascal case. -/
theorem isPascal_pascalChars {s : List Char} (h : ∀ v ∈ words s, StartsWithLetters v) :
    IsPascal (pascalChars s) := by
  constructor
  · intro c hc
    obtain ⟨v, hv, hc⟩ := List.mem_flatMap.mp hc
    have halnum := isAlphanum_of_mem_capitalizedWord (h v hv).2 hc
    have hpart : Schema.isNamePart c = true := by simp [Schema.isNamePart, halnum]
    rw [isAlphanumeric_of_ascii (Schema.ascii_of_isNamePart hpart), halnum]
  · rw [pascalChars]
    cases hwords : words s with
    | nil => simp
    | cons v ws =>
      obtain ⟨d, r, hcap, hd, _⟩ := (h v (by simp [hwords])).exists_capitalizedWord_eq
      intro c hc
      rw [List.flatMap_cons, hcap, List.cons_append, List.head?_cons, Option.mem_some_iff] at hc
      exact hc ▸ uppercase_of_isUppercase hd
  · intro before c after heq hbefore hc
    exact startsWord_flatMap_capitalizedWord h heq hc fun hnil => absurd hnil hbefore

end SchemaSdk.Text
