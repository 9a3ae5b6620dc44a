import SchemaSdk.Proofs.Text.PascalCase

/-!
# Names that are cased again

The words of a name in snake case are its words in lower case, so snake case leaves it as it is.
Written together, words are found again as long as each starts with two letters: its capital stands
behind the lower case in which the word before it ends, and no other capital follows. So no casing
loses where the words of such a name start, and each leaves a name of its own as it is.
-/
namespace SchemaSdk.Text

/-! ## Words written together -/

/-- A word that ends in lower case and has no capital but perhaps its first character. -/
structure IsHump (v : List Char) : Prop where
  ne_nil : v ≠ []
  tail : ∀ c ∈ v.tail, isUppercase c = false
  ends : ∀ w, v.foldl WordCase.after w = .lower

/-- The word starts with a capital. -/
def IsCapital (v : List Char) : Prop := ∃ c r, v = c :: r ∧ isUppercase c = true

theorem cutFrom_of_lower {word s : List Char} (hword : word ≠ [])
    (hs : ∀ c ∈ s, isUppercase c = false) (w : WordCase) :
    cutFrom w word s = [word.reverse ++ s] := by
  induction s generalizing w word with
  | nil => simp [cutFrom, hword]
  | cons c s ih =>
    obtain ⟨hc, hs⟩ := List.forall_mem_cons.mp hs
    have hstays : ¬ StartsWord w c s := fun hstarts => by simp [hstarts.1] at hc
    rw [cutFrom_cons_of_not hstays, ih (List.cons_ne_nil c word) hs]
    simp

/-- A word without further capitals goes on to the next capital, before which lower case ends. -/
theorem cutFrom_append_capital {w : WordCase} {word s r : List Char} {c : Char} (hword : word ≠ [])
    (hs : ∀ d ∈ s, isUppercase d = false) (hcase : s.foldl WordCase.after w = .lower)
    (hc : isUppercase c = true) :
    cutFrom w word (s ++ c :: r) = (word.reverse ++ s) :: cutFrom .upper [c] r := by
  induction s generalizing w word with
  | nil =>
    rw [List.foldl_nil] at hcase
    have hstarts : word ≠ [] ∧ StartsWord w c r := ⟨hword, hc, .inl hcase⟩
    rw [List.nil_append, cutFrom, if_pos hstarts, WordCase.after_of_isUppercase _ hc,
      List.append_nil]
  | cons d s ih =>
    obtain ⟨hd, hs⟩ := List.forall_mem_cons.mp hs
    have hstays : ¬ StartsWord w d (s ++ c :: r) := fun hstarts => by simp [hstarts.1] at hd
    rw [List.cons_append, cutFrom_cons_of_not hstays, ih (List.cons_ne_nil d word) hs hcase]
    simp

theorem cutFrom_humps {w : WordCase} {word s : List Char} {ws : List (List Char)}
    (hword : word ≠ []) (hs : ∀ c ∈ s, isUppercase c = false)
    (hcase : s.foldl WordCase.after w = .lower) (hws : ∀ v ∈ ws, IsHump v ∧ IsCapital v) :
    cutFrom w word (s ++ ws.flatten) = (word.reverse ++ s) :: ws := by
  induction ws generalizing w word s with
  | nil => rw [List.flatten_nil, List.append_nil, cutFrom_of_lower hword hs]
  | cons v ws ih =>
    obtain ⟨⟨hump, c, r, rfl, hc⟩, hrest⟩ := List.forall_mem_cons.mp hws
    have htail : ∀ d ∈ r, isUppercase d = false := hump.tail
    have hr : r.foldl WordCase.after .upper = .lower := by
      have hends := hump.ends .none
      rwa [List.foldl_cons, WordCase.after_of_isUppercase _ hc] at hends
    rw [List.flatten_cons, List.cons_append, cutFrom_append_capital hword hs hcase hc,
      ih (List.cons_ne_nil c []) htail hr hrest]
    rfl

/-- **Words written together** are found again: a first one and others that start with capitals. -/
theorem words_hump_append {v : List Char} {ws : List (List Char)}
    (halnum : ∀ c ∈ v ++ ws.flatten, isAlphanumeric c = true) (hv : IsHump v)
    (hws : ∀ u ∈ ws, IsHump u ∧ IsCapital u) : words (v ++ ws.flatten) = v :: ws := by
  obtain ⟨c, s, rfl⟩ := List.exists_cons_of_ne_nil hv.ne_nil
  have htail : ∀ d ∈ s, isUppercase d = false := hv.tail
  have hcase : s.foldl WordCase.after (WordCase.none.after c) = .lower := hv.ends .none
  rw [words_eq_cutFrom halnum, List.cons_append, cutFrom, if_neg fun hboth => hboth.1 rfl,
    cutFrom_humps (List.cons_ne_nil c []) htail hcase hws]
  rfl

theorem words_humps {ws : List (List Char)} (halnum : ∀ c ∈ ws.flatten, isAlphanumeric c = true)
    (hws : ∀ u ∈ ws, IsHump u ∧ IsCapital u) : words ws.flatten = ws := by
  cases ws with
  | nil => simp [words, piecesFrom]
  | cons v ws =>
    obtain ⟨hv, hws⟩ := List.forall_mem_cons.mp hws
    exact words_hump_append halnum hv.1 hws

theorem words_of_lower {v : List Char} (hne : v ≠ []) (halnum : ∀ c ∈ v, isAlphanumeric c = true)
    (hlower : ∀ c ∈ v, isUppercase c = false) : words v = [v] := by
  obtain ⟨c, s, rfl⟩ := List.exists_cons_of_ne_nil hne
  rw [words_eq_cutFrom halnum, cutFrom, if_neg fun hboth => hboth.1 rfl,
    cutFrom_of_lower (List.cons_ne_nil c []) (List.forall_mem_cons.mp hlower).2]
  rfl

/-- Underscores keep apart what they stand between. -/
theorem words_intercalate (ls : List (List Char)) :
    words (['_'].intercalate ls) = ls.flatMap words := by
  induction ls with
  | nil => simp [words, piecesFrom]
  | cons l ls ih =>
    by_cases hls : ls = []
    · simp [hls]
    · rw [List.intercalate_cons_of_ne_nil hls, List.append_assoc, List.singleton_append,
        words_append_underscore, ih, List.flatMap_cons]

/-! ## Cased words -/

theorem isAlphanumeric_of_isAlphanum {c : Char} (h : c.isAlphanum = true) :
    isAlphanumeric c = true := by
  have hpart : Schema.isNamePart c = true := by simp [Schema.isNamePart, h]
  rw [isAlphanumeric_of_ascii (Schema.ascii_of_isNamePart hpart), h]

section Word

variable {v : List Char}

theorem toLower_of_ascii {c : Char} (hc : c.toNat < 0x80) :
    c.toLower.toNat < 0x80 ∧ c.toLower.toLower = c.toLower ∧ isUppercase c.toLower = false := by
  have hascii : c.toLower.toNat < 0x80 ∧ c.toLower.toLower = c.toLower :=
    forall_ascii (P := fun c => c.toLower.toNat < 0x80 ∧ c.toLower.toLower = c.toLower)
      (by decide) c hc
  exact ⟨hascii.1, hascii.2, by rw [isUppercase_of_ascii hascii.1, isUpper_toLower hc]⟩

theorem toUpper_of_ascii {c : Char} (hc : c.toNat < 0x80) :
    c.toUpper.toNat < 0x80 ∧ c.toUpper.toLower = c.toLower ∧ c.toUpper.toUpper = c.toUpper :=
  forall_ascii (P := fun c => c.toUpper.toNat < 0x80 ∧ c.toUpper.toLower = c.toLower ∧
    c.toUpper.toUpper = c.toUpper) (by decide) c hc

theorem toLower_of_mem_map (hv : ∀ c ∈ v, c.toNat < 0x80) : ∀ c ∈ v.map Char.toLower,
    c.toNat < 0x80 ∧ c.toLower = c ∧ isUppercase c = false := by
  intro c hc
  obtain ⟨d, hd, rfl⟩ := List.mem_map.mp hc
  exact toLower_of_ascii (hv d hd)

theorem map_toLower_map_toLower (hv : ∀ c ∈ v, c.toNat < 0x80) :
    (v.map Char.toLower).map Char.toLower = v.map Char.toLower := by
  rw [List.map_map]
  exact List.map_congr_left fun c hc => (toLower_of_ascii (hv c hc)).2.1

theorem capitalizedWord_of_ascii {c : Char} (hv : ∀ d ∈ c :: v, d.toNat < 0x80) :
    capitalizedWord (c :: v) = c.toUpper :: v.map Char.toLower := by
  obtain ⟨hc, hv⟩ := List.forall_mem_cons.mp hv
  rw [capitalizedWord, uppercase_of_ascii hc, lowercaseWord_of_ascii hv, List.singleton_append]

theorem ascii_of_mem_capitalizedWord (hv : ∀ c ∈ v, c.toNat < 0x80) :
    ∀ c ∈ capitalizedWord v, c.toNat < 0x80 := by
  cases v with
  | nil => simp [capitalizedWord]
  | cons c v =>
    obtain ⟨hc, htail⟩ := List.forall_mem_cons.mp hv
    rw [capitalizedWord_of_ascii hv]
    exact List.forall_mem_cons.mpr
      ⟨(toUpper_of_ascii hc).1, fun d hd => (toLower_of_mem_map htail d hd).1⟩

variable (hv : ∀ c ∈ v, c.toNat < 0x80)

include hv

theorem lowercaseWord_lowercaseWord : lowercaseWord (lowercaseWord v) = lowercaseWord v := by
  rw [lowercaseWord_of_ascii hv, lowercaseWord_of_ascii fun c hc => (toLower_of_mem_map hv c hc).1,
    map_toLower_map_toLower hv]

theorem lowercaseWord_capitalizedWord : lowercaseWord (capitalizedWord v) = lowercaseWord v := by
  rw [lowercaseWord_of_ascii (ascii_of_mem_capitalizedWord hv), lowercaseWord_of_ascii hv]
  cases v with
  | nil => rfl
  | cons c v =>
    obtain ⟨hc, htail⟩ := List.forall_mem_cons.mp hv
    rw [capitalizedWord_of_ascii hv, List.map_cons, List.map_cons, (toUpper_of_ascii hc).2.1,
      map_toLower_map_toLower htail]

theorem capitalizedWord_capitalizedWord :
    capitalizedWord (capitalizedWord v) = capitalizedWord v := by
  have hascii := ascii_of_mem_capitalizedWord hv
  cases v with
  | nil => rfl
  | cons c v =>
    obtain ⟨hc, htail⟩ := List.forall_mem_cons.mp hv
    rw [capitalizedWord_of_ascii hv] at hascii ⊢
    rw [capitalizedWord_of_ascii hascii, (toUpper_of_ascii hc).2.2, map_toLower_map_toLower htail]

end Word

namespace StartsWithLetters

variable {v : List Char} (h : StartsWithLetters v)

include h

theorem ascii : ∀ c ∈ v, c.toNat < 0x80 := fun c hc => (h.2 c hc).1

theorem isHump_lowercaseWord : IsHump (lowercaseWord v) := by
  have hascii := h.ascii
  obtain ⟨⟨a, b, r, rfl, ha, hb⟩, _⟩ := h
  obtain ⟨ha', htail⟩ := List.forall_mem_cons.mp hascii
  have hfirst : isLowercase a.toLower = true := by
    rw [isLowercase_of_ascii (toLower_of_ascii ha').1]
    exact forall_ascii (P := fun c => c.isAlpha = true → c.toLower.isLower = true) (by decide) a
      ha' ha
  rw [lowercaseWord_of_ascii hascii]
  refine ⟨by simp, fun c hc => ?_, fun w => ?_⟩
  · exact (toLower_of_mem_map htail c hc).2.2
  · rw [List.map_cons, List.foldl_cons, WordCase.after_of_isLowercase _ hfirst,
      foldl_after_map_toLower htail]

theorem isHump_capitalizedWord : IsHump (capitalizedWord v) ∧ IsCapital (capitalizedWord v) := by
  have hascii := h.ascii
  obtain ⟨c, r, hcap, hc, _, hends⟩ := h.exists_capitalizedWord_eq
  obtain ⟨⟨a, b, s, rfl, _, _⟩, _⟩ := h
  obtain ⟨ha, htail⟩ := List.forall_mem_cons.mp hascii
  refine ⟨⟨by simp [hcap], ?_, by rwa [hcap]⟩, c, r, hcap, hc⟩
  rw [capitalizedWord_of_ascii hascii]
  exact fun d hd => (toLower_of_mem_map htail d hd).2.2

theorem isAlphanumeric_capitalizedWord : ∀ c ∈ capitalizedWord v, isAlphanumeric c = true :=
  fun _ hc => isAlphanumeric_of_isAlphanum (isAlphanum_of_mem_capitalizedWord h.2 hc)

end StartsWithLetters

/-! ## Snake case -/

/-- Whether the first two characters of a word are letters of ASCII. -/
def startsWithTwoLetters : List Char → Bool
  | a :: b :: _ => a.isAlpha && b.isAlpha
  | _ => false

section Ascii

variable {s : List Char} (hs : ∀ c ∈ s, c.toNat < 0x80)

include hs

theorem ascii_of_mem_word {v : List Char} (hv : v ∈ words s) : ∀ c ∈ v, c.toNat < 0x80 :=
  fun c hc => (ascii_of_mem_words hs hv c hc).1

/-- The words of a name in snake case are its words in lower case. -/
theorem words_snakeChars : words (snakeChars s) = (words s).map lowercaseWord := by
  rw [snakeChars, words_intercalate, List.flatMap_map, ← List.flatMap_singleton' ((words s).map _),
    List.flatMap_map]
  refine List.flatMap_congr fun v hv => ?_
  have hlower := lowercaseWord_of_ascii (ascii_of_mem_word hs hv)
  refine words_of_lower ?_ (fun c hc => ?_) fun c hc => ?_
  · rw [hlower, Ne, List.map_eq_nil_iff]
    exact ne_nil_of_mem_words hv
  · exact isAlphanumeric_of_isAlphanum
      (isAlphanum_of_mem_lowercaseWord (ascii_of_mem_words hs hv) hc)
  · rw [hlower] at hc
    exact (toLower_of_mem_map (ascii_of_mem_word hs hv) c hc).2.2

theorem snakeChars_snakeChars : snakeChars (snakeChars s) = snakeChars s := by
  rw [snakeChars, words_snakeChars hs, List.map_map, snakeChars]
  refine congrArg _ (List.map_congr_left fun v hv => ?_)
  exact lowercaseWord_lowercaseWord (ascii_of_mem_word hs hv)

/-- The parts between the underscores of a name in snake case are its words in lower case. -/
theorem splitOn_snakeChars (hne : words s ≠ []) :
    (snakeChars s).splitOn '_' = (words s).map lowercaseWord := by
  refine List.splitOn_intercalate '_' (fun l hl hmem => ?_) (by simpa using hne)
  obtain ⟨v, hv, rfl⟩ := List.mem_map.mp hl
  have halnum := isAlphanum_of_mem_lowercaseWord (ascii_of_mem_words hs hv) hmem
  exact absurd halnum (by decide)

/-- Words that start with two letters in snake case start with two letters. -/
theorem startsWithLetters_of_splitOn
    (h : ∀ w ∈ (snakeChars s).splitOn '_', w ≠ [] → startsWithTwoLetters w = true) :
    ∀ v ∈ words s, StartsWithLetters v := by
  intro v hv
  have hascii := ascii_of_mem_word hs hv
  have hlower := lowercaseWord_of_ascii hascii
  have hword : lowercaseWord v ∈ (snakeChars s).splitOn '_' := by
    rw [splitOn_snakeChars hs (List.ne_nil_of_mem hv)]
    exact List.mem_map_of_mem hv
  rw [hlower] at hword
  have hstarts := h _ hword (by simpa using ne_nil_of_mem_words hv)
  refine ⟨?_, ascii_of_mem_words hs hv⟩
  have halpha : ∀ c : Char, c.toNat < 0x80 → c.toLower.isAlpha = true → c.isAlpha = true :=
    forall_ascii (by decide)
  match v, hstarts with
  | a :: b :: r, hstarts =>
    obtain ⟨ha, hb⟩ := Bool.and_eq_true_iff.mp hstarts
    obtain ⟨ha', htail⟩ := List.forall_mem_cons.mp hascii
    exact ⟨a, b, r, rfl, halpha a ha' ha, halpha b (List.forall_mem_cons.mp htail).1 hb⟩

end Ascii

/-! ## Camel and pascal case -/

theorem words_nil : words [] = [] := rfl

theorem camelChars_of_words_nil {s : List Char} (hwords : words s = []) : camelChars s = [] := by
  rw [camelChars, hwords]

theorem camelChars_of_words_cons {s v : List Char} {ws : List (List Char)}
    (hwords : words s = v :: ws) :
    camelChars s = lowercaseWord v ++ (ws.map capitalizedWord).flatten := by
  rw [camelChars, hwords, ← List.flatMap_def]

section Letters

variable {s : List Char} (h : ∀ v ∈ words s, StartsWithLetters v)

include h

theorem words_pascalChars : words (pascalChars s) = (words s).map capitalizedWord := by
  rw [pascalChars, List.flatMap_def]
  refine words_humps (fun c hc => ?_) fun u hu => ?_
  · obtain ⟨u, hu, hc⟩ := List.mem_flatten.mp hc
    obtain ⟨v, hv, rfl⟩ := List.mem_map.mp hu
    exact (h v hv).isAlphanumeric_capitalizedWord c hc
  · obtain ⟨v, hv, rfl⟩ := List.mem_map.mp hu
    exact (h v hv).isHump_capitalizedWord

theorem words_camelChars {v : List Char} {ws : List (List Char)} (hwords : words s = v :: ws) :
    words (camelChars s) = lowercaseWord v :: ws.map capitalizedWord := by
  rw [hwords] at h
  obtain ⟨hv, hws⟩ := List.forall_mem_cons.mp h
  rw [camelChars_of_words_cons hwords]
  refine words_hump_append (List.forall_mem_append.mpr ⟨fun c hc => ?_, fun c hc => ?_⟩)
    hv.isHump_lowercaseWord fun u hu => ?_
  · exact isAlphanumeric_of_isAlphanum (isAlphanum_of_mem_lowercaseWord hv.2 hc)
  · obtain ⟨u, hu, hc⟩ := List.mem_flatten.mp hc
    obtain ⟨w, hw, rfl⟩ := List.mem_map.mp hu
    exact (hws w hw).isAlphanumeric_capitalizedWord c hc
  · obtain ⟨w, hw, rfl⟩ := List.mem_map.mp hu
    exact (hws w hw).isHump_capitalizedWord

/-- The words of a name are found again in its pascal case. -/
theorem snakeChars_pascalChars : snakeChars (pascalChars s) = snakeChars s := by
  rw [snakeChars, words_pascalChars h, List.map_map, snakeChars]
  refine congrArg _ (List.map_congr_left fun v hv => ?_)
  exact lowercaseWord_capitalizedWord (h v hv).ascii

/-- The words of a name are found again in its camel case. -/
theorem snakeChars_camelChars : snakeChars (camelChars s) = snakeChars s := by
  cases hwords : words s with
  | nil => rw [camelChars_of_words_nil hwords, snakeChars, words_nil, snakeChars, hwords]
  | cons v ws =>
    have hcamel := words_camelChars h hwords
    rw [hwords] at h
    obtain ⟨hv, hws⟩ := List.forall_mem_cons.mp h
    rw [snakeChars, hcamel, snakeChars, hwords, List.map_cons, List.map_cons, List.map_map,
      lowercaseWord_lowercaseWord hv.ascii]
    refine congrArg (fun ls => ['_'].intercalate (lowercaseWord v :: ls)) ?_
    exact List.map_congr_left fun w hw => lowercaseWord_capitalizedWord (hws w hw).ascii

/-- Camel case leaves a name in camel case as it is. -/
theorem camelChars_camelChars : camelChars (camelChars s) = camelChars s := by
  cases hwords : words s with
  | nil => rw [camelChars_of_words_nil hwords, camelChars_of_words_nil words_nil]
  | cons v ws =>
    have hcamel := words_camelChars h hwords
    rw [hwords] at h
    obtain ⟨hv, hws⟩ := List.forall_mem_cons.mp h
    have hcapitals : (ws.map capitalizedWord).map capitalizedWord = ws.map capitalizedWord := by
      rw [List.map_map]
      exact List.map_congr_left fun w hw => capitalizedWord_capitalizedWord (hws w hw).ascii
    rw [camelChars_of_words_cons hcamel, lowercaseWord_lowercaseWord hv.ascii, hcapitals,
      camelChars_of_words_cons hwords]

end Letters

/-- **Casing a name again.** Snake case leaves an ASCII name in snake case as it is. If each of the
words between its underscores starts with two letters, snake case finds them again in camel and
pascal case, and these leave what they have written as it is. -/
theorem snakeCase_recased {s : String} (hs : ∀ c ∈ s.toList, c.toNat < 0x80) :
    snakeCase (snakeCase s) = snakeCase s ∧
      ((∀ w ∈ (snakeCase s).toList.splitOn '_', w ≠ [] → startsWithTwoLetters w = true) →
        snakeCase (camelCase (snakeCase s)) = snakeCase s ∧
          snakeCase (pascalCase (snakeCase s)) = snakeCase s ∧
          camelCase (camelCase s) = camelCase s ∧ pascalCase (pascalCase s) = pascalCase s) := by
  simp only [snakeCase, camelCase, pascalCase, String.toList_ofList, String.ofList_inj]
  have hsnake := snakeChars_snakeChars hs
  refine ⟨hsnake, fun hparts => ?_⟩
  have hwords := startsWithLetters_of_splitOn hs hparts
  have hascii : ∀ c ∈ snakeChars s.toList, c.toNat < 0x80 :=
    fun _ hc => ascii_of_mem_snakeChars hs hc
  have hagain : ∀ v ∈ words (snakeChars s.toList), StartsWithLetters v :=
    startsWithLetters_of_splitOn hascii (by rwa [hsnake])
  refine ⟨?_, ?_, ?_, ?_⟩
  · rw [snakeChars_camelChars hagain, hsnake]
  · rw [snakeChars_pascalChars hagain, hsnake]
  · exact camelChars_camelChars hwords
  · exact pascalChars_eq_self_iff.mpr (isPascal_pascalChars hwords)

/-- Runs of capitals, and digits behind the first two letters, are no exception. -/
theorem snakeCase_recased_acronyms :
    ∃ s, s = "getHTTP2Response-utf8_Code" ∧ (∀ c ∈ s.toList, c.toNat < 0x80) ∧
      snakeCase s = "get_http2_response_utf8_code" ∧ snakeCase (snakeCase s) = snakeCase s ∧
      snakeCase (camelCase (snakeCase s)) = snakeCase s ∧
      snakeCase (pascalCase (snakeCase s)) = snakeCase s ∧
      camelCase (camelCase s) = camelCase s ∧ pascalCase (pascalCase s) = pascalCase s := by
  have hascii : ∀ c ∈ "getHTTP2Response-utf8_Code".toList, c.toNat < 0x80 := fun c hc =>
    of_decide_eq_true (List.all_eq_true (p := fun c => decide (c.toNat < 0x80)).mp (by decide) c hc)
  obtain ⟨hsnake, hrest⟩ := snakeCase_recased hascii
  exact ⟨_, rfl, hascii, by decide +kernel, hsnake, hrest (by decide +kernel)⟩

end SchemaSdk.Text
