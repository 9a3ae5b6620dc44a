import SchemaSdk.Proofs.Text.Words

/-!
# The letters of cased names

The words of a name are never empty and together are its letters and numbers, so a cased name starts
and ends with the changed case of the first and the last of them. A class of characters that a change
of case neither enters nor leaves is kept by a casing: a cased name keeps to it exactly if the
letters and numbers of the name do.
-/
namespace SchemaSdk.Text

/-! ## Words -/

theorem ne_nil_of_mem_wordsFrom {w : WordCase} {word s v : List Char}
    (hw : w = .upper → word ≠ []) (hv : v ∈ wordsFrom w word s) : v ≠ [] := by
  fun_induction wordsFrom w word s with
  | case1 => cases hv
  | case2 w word h =>
    rw [List.mem_singleton.mp hv]
    simpa using h
  | case3 w word c =>
    rw [List.mem_singleton.mp hv]
    simp
  | case4 w word c d r h ih =>
    rcases List.mem_cons.mp hv with rfl | hv
    · simp
    · exact ih (fun hupper => by cases hupper) hv
  | case5 w word c d r h h' ih =>
    rcases List.mem_cons.mp hv with rfl | hv
    · simpa using hw h'.1
    · exact ih (fun hupper => by cases hupper) hv
  | case6 w word c d r h h' ih => exact ih (fun _ => List.cons_ne_nil _ _) hv

variable {s v : List Char} {c : Char}

theorem ne_nil_of_mem_words (hv : v ∈ words s) : v ≠ [] := by
  obtain ⟨p, _, hv⟩ := List.mem_flatMap.mp hv
  exact ne_nil_of_mem_wordsFrom (w := .none) nofun hv

theorem words_eq_nil_iff : words s = [] ↔ letters s = [] := by
  rw [← flatten_words, List.flatten_eq_nil_iff]
  constructor
  · intro h
    simp [h]
  · intro h
    refine List.eq_nil_iff_forall_not_mem.mpr fun v hv => ?_
    exact ne_nil_of_mem_words hv (h v hv)

/-- The first letter of a name starts its first word. -/
theorem exists_words_eq_cons {r : List Char} (h : letters s = c :: r) :
    ∃ v ws, words s = (c :: v) :: ws := by
  have hflatten := flatten_words s
  cases hwords : words s with
  | nil =>
    rw [words_eq_nil_iff.mp hwords] at h
    cases h
  | cons v ws =>
    obtain ⟨d, v, rfl⟩ := List.exists_cons_of_ne_nil
      (ne_nil_of_mem_words (s := s) (v := v) (by simp [hwords]))
    rw [hwords, h, List.flatten_cons, List.cons_append] at hflatten
    obtain ⟨rfl, _⟩ := List.cons.inj hflatten
    exact ⟨v, ws, rfl⟩

/-- The last letter of a name ends its last word. -/
theorem exists_words_eq_concat {r : List Char} (h : letters s = r ++ [c]) :
    ∃ v ws, words s = ws ++ [v ++ [c]] := by
  have hflatten := flatten_words s
  rcases List.eq_nil_or_concat (words s) with hwords | ⟨ws, v, hwords⟩
  · rw [words_eq_nil_iff.mp hwords] at h
    simp at h
  · have hne : v ≠ [] := ne_nil_of_mem_words (s := s) (by simp [hwords])
    obtain ⟨v, d, rfl⟩ := (List.eq_nil_or_concat v).resolve_left hne
    rw [List.concat_eq_append, List.concat_eq_append] at hwords
    rw [hwords, h, List.flatten_append, List.flatten_singleton, ← List.append_assoc] at hflatten
    obtain ⟨_, hlast⟩ := List.append_inj' hflatten rfl
    rw [List.cons.inj hlast |>.1] at hwords
    exact ⟨v, ws, hwords⟩

/-! ## Joined words -/

theorem all_intercalate {p : Char → Bool} {sep : List Char} (hsep : sep.all p = true)
    (ls : List (List Char)) : (sep.intercalate ls).all p = ls.all (·.all p) := by
  induction ls with
  | nil => rfl
  | cons l ls ih =>
    by_cases hls : ls = []
    · subst hls
      simp
    · rw [List.intercalate_cons_of_ne_nil hls, List.all_append, List.all_append, hsep, ih]
      simp

theorem head?_intercalate {sep l : List Char} (ls : List (List Char)) (hl : l ≠ []) :
    (sep.intercalate (l :: ls)).head? = l.head? := by
  by_cases hls : ls = []
  · subst hls
    rw [List.intercalate_singleton]
  · rw [List.intercalate_cons_of_ne_nil hls, List.append_assoc, List.head?_append_of_ne_nil _ hl]

theorem getLast?_intercalate {sep l : List Char} (ls : List (List Char)) (hl : l ≠ []) :
    (sep.intercalate (ls ++ [l])).getLast? = l.getLast? := by
  induction ls with
  | nil => simp
  | cons m ls ih =>
    have hne : ls ++ [l] ≠ [] := by simp
    have hjoined : sep.intercalate (ls ++ [l]) ≠ [] := by
      intro hnil
      rw [hnil] at ih
      exact hl (List.getLast?_eq_none_iff.mp ih.symm)
    rw [List.cons_append, List.intercalate_cons_of_ne_nil hne,
      List.getLast?_append_of_ne_nil _ hjoined, ih]

/-! ## Words in lower case -/

theorem lowercase_ne_nil (c : Char) : lowercase c ≠ [] := by
  unfold lowercase
  split
  · simp
  · split <;> simp

theorem uppercase_ne_nil (c : Char) : uppercase c ≠ [] := by
  have hexpansions : ∀ e ∈ uppercaseExpansions, e.2 ≠ [] := by decide
  unfold uppercase
  split
  · simp
  · split
    · rename_i image hfound
      simpa using hexpansions _ (List.mem_of_find?_eq_some hfound)
    · simp

/-- Only a word that is a single sigma, in its final form, does not start with the lower case of its
first letter. -/
theorem head?_lowercaseWord (c : Char) (r : List Char) :
    (lowercaseWord (c :: r)).head? = (lowercase c).head? ∨
      c = 'Σ' ∧ (lowercaseWord (c :: r)).head? = some 'ς' := by
  by_cases hsigma : c = 'Σ' ∧ r = []
  · obtain ⟨rfl, rfl⟩ := hsigma
    exact .inr ⟨rfl, rfl⟩
  · left
    rw [lowercaseWord.eq_3 c r (by simpa using hsigma),
      List.head?_append_of_ne_nil _ (lowercase_ne_nil c)]

/-- A word that does not end in a sigma ends with the lower case of its last letter. -/
theorem getLast?_lowercaseWord (hc : c ≠ 'Σ') (v : List Char) :
    (lowercaseWord (v ++ [c])).getLast? = (lowercase c).getLast? := by
  induction v with
  | nil => simp [lowercaseWord.eq_3 c [] (by simpa using hc), lowercaseWord]
  | cons d v ih =>
    have hne : lowercaseWord (v ++ [c]) ≠ [] := by
      intro hnil
      rw [hnil] at ih
      exact lowercase_ne_nil c (List.getLast?_eq_none_iff.mp ih.symm)
    rw [List.cons_append, lowercaseWord.eq_3 d (v ++ [c]) (by simp),
      List.getLast?_append_of_ne_nil _ hne, ih]

theorem lowercaseWord_ne_nil (hv : v ≠ []) : lowercaseWord v ≠ [] := by
  obtain ⟨c, r, rfl⟩ := List.exists_cons_of_ne_nil hv
  intro hnil
  rcases head?_lowercaseWord c r with hhead | ⟨_, hhead⟩
  · rw [hnil, List.head?_nil] at hhead
    exact lowercase_ne_nil c (List.head?_eq_none_iff.mp hhead.symm)
  · rw [hnil] at hhead
    cases hhead

/-! ## Names in snake case -/

theorem snakeChars_eq_nil_iff : snakeChars s = [] ↔ letters s = [] := by
  rw [← words_eq_nil_iff]
  constructor
  · intro h
    cases hwords : words s with
    | nil => rfl
    | cons v ws =>
      have hne : lowercaseWord v ≠ [] :=
        lowercaseWord_ne_nil (ne_nil_of_mem_words (s := s) (by simp [hwords]))
      have hhead : (snakeChars s).head? = (lowercaseWord v).head? := by
        rw [snakeChars, hwords, List.map_cons, head?_intercalate _ hne]
      rw [h] at hhead
      exact absurd (List.head?_eq_none_iff.mp hhead.symm) hne
  · intro h
    rw [snakeChars, h]
    rfl

/-- A name in snake case starts with the lower case of its first letter, unless that is a sigma that
is a word. -/
theorem head?_snakeChars {r : List Char} (h : letters s = c :: r) :
    (snakeChars s).head? = (lowercase c).head? ∨ c = 'Σ' ∧ (snakeChars s).head? = some 'ς' := by
  obtain ⟨v, ws, hwords⟩ := exists_words_eq_cons h
  have hne : lowercaseWord (c :: v) ≠ [] := lowercaseWord_ne_nil (List.cons_ne_nil _ _)
  rw [snakeChars, hwords, List.map_cons, head?_intercalate _ hne]
  exact head?_lowercaseWord c v

/-- A name in snake case ends with the lower case of its last letter, unless that is a sigma. -/
theorem getLast?_snakeChars {r : List Char} (h : letters s = r ++ [c]) (hc : c ≠ 'Σ') :
    (snakeChars s).getLast? = (lowercase c).getLast? := by
  obtain ⟨v, ws, hwords⟩ := exists_words_eq_concat h
  have hne : lowercaseWord (v ++ [c]) ≠ [] := lowercaseWord_ne_nil (by simp)
  rw [snakeChars, hwords, List.map_append, List.map_singleton, getLast?_intercalate _ hne,
    getLast?_lowercaseWord hc]

section Class

variable {p : Char → Bool} (hsigma : p 'ς' = p 'Σ')

include hsigma

theorem all_lowercaseWord (hlower : ∀ c, (lowercase c).all p = p c) (v : List Char) :
    (lowercaseWord v).all p = v.all p := by
  fun_induction lowercaseWord v with
  | case1 => rfl
  | case2 => simp [hsigma]
  | case3 c r _ ih => rw [List.all_append, hlower, ih, List.all_cons]

/-- **A class of characters in snake case**: a name in snake case keeps to it exactly if the letters
and numbers of the name do. -/
theorem all_snakeChars (hlower : ∀ c, (lowercase c).all p = p c) (hmark : p '_' = true)
    (s : List Char) : (snakeChars s).all p = (letters s).all p := by
  rw [snakeChars, all_intercalate (by simp [hmark]), ← flatten_words, List.all_flatten,
    List.all_map]
  refine List.all_congr rfl fun v => ?_
  exact all_lowercaseWord hsigma hlower v

theorem any_head?_snakeChars (hlower : ∀ c, (lowercase c).head?.any p = p c) (s : List Char) :
    (snakeChars s).head?.any p = (letters s).head?.any p := by
  cases hletters : letters s with
  | nil => rw [snakeChars_eq_nil_iff.mpr hletters]
  | cons c r =>
    rcases head?_snakeChars hletters with hhead | ⟨rfl, hhead⟩
    · rw [hhead, hlower, List.head?_cons, Option.any_some]
    · rw [hhead, Option.any_some, hsigma, List.head?_cons, Option.any_some]

/-! ## Names in pascal case -/

theorem all_pascalChars (hlower : ∀ c, (lowercase c).all p = p c)
    (hupper : ∀ c, (uppercase c).all p = p c) (s : List Char) :
    (pascalChars s).all p = (letters s).all p := by
  rw [pascalChars, ← flatten_words, List.all_flatten, List.all_flatMap]
  refine List.all_congr rfl fun v => ?_
  cases v with
  | nil => rfl
  | cons c r =>
    rw [capitalizedWord, List.all_append, hupper, all_lowercaseWord hsigma hlower, List.all_cons]

end Class

/-- A name in pascal case starts with the upper case of its first letter. -/
theorem head?_pascalChars (s : List Char) :
    (pascalChars s).head? = (letters s).head?.bind fun c => (uppercase c).head? := by
  cases hletters : letters s with
  | nil =>
    rw [pascalChars, words_eq_nil_iff.mpr hletters]
    rfl
  | cons c r =>
    obtain ⟨v, ws, hwords⟩ := exists_words_eq_cons hletters
    rw [pascalChars, hwords, List.flatMap_cons, capitalizedWord, List.append_assoc,
      List.head?_append_of_ne_nil _ (uppercase_ne_nil c)]
    rfl

theorem pascalChars_eq_nil_iff : pascalChars s = [] ↔ letters s = [] := by
  rw [← List.head?_eq_none_iff, head?_pascalChars]
  cases letters s with
  | nil => simp
  | cons c r => simp [uppercase_ne_nil]

end SchemaSdk.Text
