import Mathlib.Data.List.Basic
import SchemaSdk.Sdk.Identifier
import SchemaSdk.Schema.Name

/-!
# The characters of cased names

No casing invents characters: the words of a name are pieces of it, and in ASCII a changed case is
again a letter. So the identifiers made from the names of a schema keep to the characters that names
and the marks of raw identifiers are made of. None of these is a space, so an identifier stays one
word where a text is read word by word. Nor does a casing that joins the words without separators
make a name longer.
-/
namespace SchemaSdk.Text

/-! ## Words between spaces -/

/-- The words of a text that single spaces separate. -/
def spacedWords (s : List Char) : List String :=
  (s.splitOn ' ').map String.ofList

@[simp] theorem spacedWords_append_space (s r : List Char) :
    spacedWords (s ++ ' ' :: r) = spacedWords s ++ spacedWords r := by
  rw [spacedWords, List.splitOn_append_cons_self, List.map_append]
  rfl

theorem spacedWords_ne_nil (s : List Char) : spacedWords s ≠ [] := by
  rw [spacedWords, Ne, List.map_eq_nil_iff]
  exact List.splitOn_ne_nil ' ' s

theorem spacedWords_of_not_mem {s : List Char} (h : ' ' ∉ s) :
    spacedWords s = [String.ofList s] := by
  rw [spacedWords, List.splitOn_eq_singleton h]
  rfl

/-- A word is read off up to the first space. -/
theorem spacedWords_cons {w : List Char} (h : ' ' ∉ w) (r : List Char) :
    spacedWords (w ++ ' ' :: r) = String.ofList w :: spacedWords r := by
  rw [spacedWords_append_space, spacedWords_of_not_mem h, List.singleton_append]

theorem mem_of_mem_intercalate {sep : List Char} {ls : List (List Char)} {c : Char}
    (hc : c ∈ sep.intercalate ls) : c ∈ sep ∨ ∃ l ∈ ls, c ∈ l := by
  induction ls with
  | nil => cases hc
  | cons l ls ih =>
    by_cases hls : ls = []
    · subst hls
      rw [List.intercalate_singleton] at hc
      exact .inr ⟨l, List.mem_cons_self, hc⟩
    · rw [List.intercalate_cons_of_ne_nil hls, List.mem_append, List.mem_append] at hc
      rcases hc with (hc | hc) | hc
      · exact .inr ⟨l, List.mem_cons_self, hc⟩
      · exact .inl hc
      · exact (ih hc).imp_right fun ⟨m, hm, hc⟩ => ⟨m, List.mem_cons_of_mem l hm, hc⟩

theorem mem_intercalate_of_mem {sep l : List Char} {ls : List (List Char)} {c : Char}
    (hl : l ∈ ls) (hc : c ∈ l) : c ∈ sep.intercalate ls := by
  induction ls with
  | nil => cases hl
  | cons m ls ih =>
    by_cases hls : ls = []
    · subst hls
      rw [List.intercalate_singleton, ← List.mem_singleton.mp hl]
      exact hc
    · rw [List.intercalate_cons_of_ne_nil hls]
      rcases List.mem_cons.mp hl with rfl | hl
      · exact List.mem_append_left _ (List.mem_append_left _ hc)
      · exact List.mem_append_right _ (ih hl)

/-- Joined texts start with the first one. -/
theorem exists_intercalate_eq (sep s : String) (texts : List String) :
    ∃ rest, sep.intercalate (s :: texts) = s ++ rest := by
  cases texts with
  | nil => exact ⟨"", by simp⟩
  | cons t texts =>
    refine ⟨sep ++ sep.intercalate (t :: texts), ?_⟩
    rw [String.intercalate_cons_cons, String.append_assoc]

/-- The words of a text consist of its characters. -/
theorem mem_of_mem_spacedWords {s : List Char} {w : String} {c : Char} (hw : w ∈ spacedWords s)
    (hc : c ∈ w.toList) : c ∈ s := by
  obtain ⟨l, hl, rfl⟩ := List.mem_map.mp hw
  rw [String.toList_ofList] at hc
  have hjoin : [' '].intercalate (s.splitOn ' ') = s := List.intercalate_splitOn ' '
  rw [← hjoin]
  exact mem_intercalate_of_mem hl hc

/-! ## Texts of certain characters -/

/-- All characters of the text have the property. -/
def Uses (p : Char → Bool) (s : String) : Prop := s.toList.all p = true

section Uses

variable {p : Char → Bool} {s r : String}

instance : Decidable (Uses p s) := inferInstanceAs (Decidable (s.toList.all p = true))

theorem uses_iff : Uses p s ↔ ∀ c ∈ s.toList, p c = true := List.all_eq_true

theorem Uses.append (hs : Uses p s) (hr : Uses p r) : Uses p (s ++ r) := by
  rw [Uses, String.toList_append, List.all_append, Bool.and_eq_true]
  exact ⟨hs, hr⟩

theorem Uses.notMem (h : Uses p s) {c : Char} (hc : p c = false) : c ∉ s.toList := by
  intro hmem
  rw [uses_iff.mp h c hmem] at hc
  cases hc

theorem Uses.intercalate {texts : List String} (hs : Uses p s) (h : ∀ t ∈ texts, Uses p t) :
    Uses p (s.intercalate texts) := by
  refine uses_iff.mpr fun c hc => ?_
  rw [String.toList_intercalate] at hc
  rcases mem_of_mem_intercalate hc with hc | ⟨l, hl, hc⟩
  · exact uses_iff.mp hs c hc
  · obtain ⟨t, ht, rfl⟩ := List.mem_map.mp hl
    exact uses_iff.mp (h t ht) c hc

end Uses

/-! ## Words of a name -/

theorem mem_of_mem_piecesFrom {piece s p : List Char} {c : Char} (hp : p ∈ piecesFrom piece s)
    (hc : c ∈ p) : c ∈ piece ∨ c ∈ s ∧ isAlphanumeric c = true := by
  fun_induction piecesFrom piece s with
  | case1 piece h => cases hp
  | case2 piece h =>
    rw [List.mem_singleton.mp hp, List.mem_reverse] at hc
    exact .inl hc
  | case3 piece d r hd ih =>
    rcases ih hp with hmem | ⟨hmem, halnum⟩
    · rcases List.mem_cons.mp hmem with rfl | hmem
      · exact .inr ⟨List.mem_cons_self, hd⟩
      · exact .inl hmem
    · exact .inr ⟨List.mem_cons_of_mem d hmem, halnum⟩
  | case4 piece d r hd h ih =>
    rcases ih hp with hmem | ⟨hmem, halnum⟩
    · cases hmem
    · exact .inr ⟨List.mem_cons_of_mem d hmem, halnum⟩
  | case5 piece d r hd h ih =>
    rcases List.mem_cons.mp hp with rfl | hp
    · exact .inl (List.mem_reverse.mp hc)
    · rcases ih hp with hmem | ⟨hmem, halnum⟩
      · cases hmem
      · exact .inr ⟨List.mem_cons_of_mem d hmem, halnum⟩

theorem mem_of_mem_wordsFrom {w : WordCase} {word s v : List Char} {c : Char}
    (hv : v ∈ wordsFrom w word s) (hc : c ∈ v) : c ∈ word ∨ c ∈ s := by
  fun_induction wordsFrom w word s with
  | case1 w word h => cases hv
  | case2 w word h =>
    rw [List.mem_singleton.mp hv, List.mem_reverse] at hc
    exact .inl hc
  | case3 w word d =>
    rw [List.mem_singleton.mp hv] at hc
    simpa [or_comm] using hc
  | case4 w word d e r h ih =>
    rcases List.mem_cons.mp hv with rfl | hv
    · rw [List.mem_reverse] at hc
      rcases List.mem_cons.mp hc with rfl | hc
      · exact .inr List.mem_cons_self
      · exact .inl hc
    · rcases ih hv with hmem | hmem
      · cases hmem
      · exact .inr (List.mem_cons_of_mem d hmem)
  | case5 w word d e r h h' ih =>
    rcases List.mem_cons.mp hv with rfl | hv
    · exact .inl (List.mem_reverse.mp hc)
    · rcases ih hv with hmem | hmem
      · rw [List.mem_singleton.mp hmem]
        exact .inr List.mem_cons_self
      · exact .inr (List.mem_cons_of_mem d hmem)
  | case6 w word d e r h h' ih =>
    rcases ih hv with hmem | hmem
    · rcases List.mem_cons.mp hmem with rfl | hmem
      · exact .inr List.mem_cons_self
      · exact .inl hmem
    · exact .inr (List.mem_cons_of_mem d hmem)

/-- The words of a name consist of its letters and numbers. -/
theorem mem_of_mem_words {s v : List Char} {c : Char} (hv : v ∈ words s) (hc : c ∈ v) :
    c ∈ s ∧ isAlphanumeric c = true := by
  obtain ⟨p, hp, hv⟩ := List.mem_flatMap.mp hv
  rcases mem_of_mem_wordsFrom hv hc with hmem | hmem
  · cases hmem
  · rcases mem_of_mem_piecesFrom hp hmem with hmem | hmem
    · cases hmem
    · exact hmem

/-- The letters and numbers of a text. -/
def letters (s : List Char) : List Char := s.filter isAlphanumeric

theorem flatten_piecesFrom (piece s : List Char) :
    (piecesFrom piece s).flatten = piece.reverse ++ letters s := by
  fun_induction piecesFrom piece s with
  | case1 piece h => simp_all [letters]
  | case2 piece h => simp [letters]
  | case3 piece c r hc ih => simp [ih, letters, hc]
  | case4 piece c r hc h ih => simp_all [letters]
  | case5 piece c r hc h ih => simp_all [letters]

theorem flatten_wordsFrom (w : WordCase) (word s : List Char) :
    (wordsFrom w word s).flatten = word.reverse ++ s := by
  fun_induction wordsFrom w word s with
  | case1 w word h => simp_all
  | case2 w word h => simp
  | case3 w word c => simp
  | case4 w word c d r h ih => simp [ih]
  | case5 w word c d r h h' ih => simp [ih]
  | case6 w word c d r h h' ih => simp [ih]

/-- The words of a name together are its letters and numbers. -/
theorem flatten_words (s : List Char) : (words s).flatten = letters s := by
  have hwords : ∀ pieces : List (List Char),
      (pieces.flatMap (wordsFrom .none [])).flatten = pieces.flatten := by
    intro pieces
    induction pieces with
    | nil => rfl
    | cons p pieces ih => simp [ih, flatten_wordsFrom]
  rw [words, hwords, flatten_piecesFrom, List.reverse_nil, List.nil_append]

/-! ## Case in ASCII -/

/-- A property of ASCII characters can be checked on the code points. -/
theorem forall_ascii {P : Char → Prop} (h : ∀ n < 0x80, P (Char.ofNat n)) (c : Char)
    (hc : c.toNat < 0x80) : P c := by
  have hn := h c.toNat hc
  rwa [Char.ofNat_toNat] at hn

theorem isAlphanum_toLower {c : Char} (hc : c.toNat < 0x80) (h : c.isAlphanum = true) :
    c.toLower.isAlphanum = true :=
  forall_ascii (P := fun c => c.isAlphanum = true → c.toLower.isAlphanum = true) (by decide) c hc h

theorem isAlphanum_toUpper {c : Char} (hc : c.toNat < 0x80) (h : c.isAlphanum = true) :
    c.toUpper.isAlphanum = true :=
  forall_ascii (P := fun c => c.isAlphanum = true → c.toUpper.isAlphanum = true) (by decide) c hc h

/-- The ASCII letters and digits of a word stay ones in lower case. -/
theorem isAlphanum_of_mem_lowercaseWord {w : List Char} {c : Char}
    (h : ∀ d ∈ w, d.toNat < 0x80 ∧ d.isAlphanum = true) (hc : c ∈ lowercaseWord w) :
    c.isAlphanum = true := by
  fun_induction lowercaseWord w with
  | case1 => cases hc
  | case2 =>
    have hsigma := (h 'Σ' List.mem_cons_self).1
    exact absurd hsigma (by decide)
  | case3 d r hr ih =>
    obtain ⟨⟨hd, halnum⟩, hrest⟩ := List.forall_mem_cons.mp h
    rcases List.mem_append.mp hc with hc | hc
    · rw [lowercase_of_ascii hd, List.mem_singleton] at hc
      rw [hc]
      exact isAlphanum_toLower hd halnum
    · exact ih hrest hc

theorem isAlphanum_of_mem_capitalizedWord {w : List Char} {c : Char}
    (h : ∀ d ∈ w, d.toNat < 0x80 ∧ d.isAlphanum = true) (hc : c ∈ capitalizedWord w) :
    c.isAlphanum = true := by
  cases w with
  | nil => cases hc
  | cons d r =>
    obtain ⟨⟨hd, halnum⟩, hrest⟩ := List.forall_mem_cons.mp h
    rcases List.mem_append.mp hc with hc | hc
    · rw [uppercase_of_ascii hd, List.mem_singleton] at hc
      rw [hc]
      exact isAlphanum_toUpper hd halnum
    · exact isAlphanum_of_mem_lowercaseWord hrest hc

/-! ## Cased names -/

section Ascii

variable {s : List Char} {c : Char} (hs : ∀ d ∈ s, d.toNat < 0x80)

include hs

theorem ascii_of_mem_words {v : List Char} (hv : v ∈ words s) :
    ∀ d ∈ v, d.toNat < 0x80 ∧ d.isAlphanum = true := by
  intro d hd
  obtain ⟨hmem, halnum⟩ := mem_of_mem_words hv hd
  rw [isAlphanumeric_of_ascii (hs d hmem)] at halnum
  exact ⟨hs d hmem, halnum⟩

theorem isAlphanum_of_mem_pascalChars (hc : c ∈ pascalChars s) : c.isAlphanum = true := by
  obtain ⟨v, hv, hc⟩ := List.mem_flatMap.mp hc
  exact isAlphanum_of_mem_capitalizedWord (ascii_of_mem_words hs hv) hc

theorem isNamePart_of_mem_snakeChars (hc : c ∈ snakeChars s) : Schema.isNamePart c = true := by
  rcases mem_of_mem_intercalate hc with hc | ⟨w, hw, hc⟩
  · rw [List.mem_singleton.mp hc]
    rfl
  · obtain ⟨v, hv, rfl⟩ := List.mem_map.mp hw
    have halnum := isAlphanum_of_mem_lowercaseWord (ascii_of_mem_words hs hv) hc
    simp [Schema.isNamePart, halnum]

end Ascii

/-! ## Lengths -/

/-- In ASCII a text has as many bytes as characters. -/
theorem utf8ByteSize_ofList_of_ascii {s : List Char} (h : ∀ d ∈ s, d.toNat < 0x80) :
    (String.ofList s).utf8ByteSize = s.length := by
  induction s with
  | nil => rfl
  | cons d r ih =>
    obtain ⟨hd, hr⟩ := List.forall_mem_cons.mp h
    have hone : d.utf8Size = 1 := Char.utf8Size_eq_one_iff.mpr (Nat.le_of_lt_succ hd)
    rw [String.ofList_cons, String.utf8ByteSize_append, String.utf8ByteSize_singleton, ih hr, hone,
      List.length_cons, Nat.add_comm]

/-- The words of a name together are no longer than the name. -/
theorem length_flatten_words_le (s : List Char) : (words s).flatten.length ≤ s.length := by
  rw [flatten_words]
  exact List.length_filter_le _ s

theorem length_lowercaseWord {w : List Char} (h : ∀ c ∈ w, c.toNat < 0x80) :
    (lowercaseWord w).length = w.length := by
  fun_induction lowercaseWord w with
  | case1 => rfl
  | case2 => rfl
  | case3 c r hr ih =>
    obtain ⟨hc, hrest⟩ := List.forall_mem_cons.mp h
    rw [lowercase_of_ascii hc, List.length_append, ih hrest, List.length_singleton,
      List.length_cons, Nat.add_comm]

theorem length_capitalizedWord {w : List Char} (h : ∀ c ∈ w, c.toNat < 0x80) :
    (capitalizedWord w).length = w.length := by
  cases w with
  | nil => rfl
  | cons c r =>
    obtain ⟨hc, hrest⟩ := List.forall_mem_cons.mp h
    rw [capitalizedWord, uppercase_of_ascii hc, List.length_append, length_lowercaseWord hrest,
      List.length_singleton, List.length_cons, Nat.add_comm]

/-- In ASCII a name in pascal case is no longer than the name. -/
theorem length_pascalChars_le {s : List Char} (hs : ∀ c ∈ s, c.toNat < 0x80) :
    (pascalChars s).length ≤ s.length := by
  have hlength : (pascalChars s).length = (words s).flatten.length := by
    rw [pascalChars, List.length_flatMap, List.length_flatten]
    refine congrArg List.sum (List.map_congr_left fun v hv => ?_)
    exact length_capitalizedWord fun c hc => (ascii_of_mem_words hs hv c hc).1
  rw [hlength]
  exact length_flatten_words_le s

/-! ## Marks before the digits

Beyond ASCII a changed case can be a letter of ASCII, as the lower case of the Kelvin sign is. It is
none of the characters that stand before the digits, whatever the script: no line feed, no space and
no separator of paths.
-/

theorem digit_le_of_mem_lowercaseShifts : ∀ s ∈ lowercaseShifts, '0'.toNat ≤ s.image := by
  decide +kernel

theorem digit_le_of_mem_uppercaseShifts : ∀ s ∈ uppercaseShifts, '0'.toNat ≤ s.image := by
  decide +kernel

theorem digit_le_of_mem_uppercaseExpansions :
    ∀ e ∈ uppercaseExpansions, ∀ n ∈ e.2, '0'.toNat ≤ n := by
  decide +kernel

section Marks

variable {x : Char} (hpos : 0 < x.toNat) (hx : x.toNat < '0'.toNat)

include hx

/-- A letter or number of ASCII is none of the characters before the digits. -/
theorem notMem_of_isAlphanum {c : Char} (h : c.isAlphanum = true) : x ∉ [c] := by
  rw [List.mem_singleton]
  rintro rfl
  refine absurd h ?_
  have hascii : x.toNat < 0x80 := Nat.lt_trans hx (by decide)
  exact forall_ascii (P := fun c => c.toNat < '0'.toNat → ¬ c.isAlphanum = true) (by decide) x
    hascii hx

include hpos

theorem ofNat_ne {n : Nat} (h : '0'.toNat ≤ n) : Char.ofNat n ≠ x := by
  intro heq
  unfold Char.ofNat at heq
  by_cases hvalid : n.isValidChar
  · rw [dif_pos hvalid] at heq
    have hcode : n = x.toNat := congrArg Char.toNat heq
    omega
  · rw [dif_neg hvalid] at heq
    rw [← heq] at hpos
    exact absurd hpos (by decide)

/-- What a table moves is moved to the digits or behind them, and what it leaves stays. -/
theorem notMem_shifted {table : List Shift} (htable : ∀ s ∈ table, '0'.toNat ≤ s.image) {c : Char}
    (hc : ¬ c.toNat < 0x80) : x ∉ [((shifted? table c.toNat).map Char.ofNat).getD c] := by
  rw [List.mem_singleton, shifted?]
  cases hshift : table.find? (·.run.contains c.toNat) with
  | none =>
    rintro rfl
    exact hc (Nat.lt_trans hx (by decide))
  | some s =>
    have himage := htable s (List.mem_of_find?_eq_some hshift)
    exact (ofNat_ne hpos hx (Nat.le_add_right_of_le himage)).symm

theorem notMem_lowercase {c : Char} (h : isAlphanumeric c = true) : x ∉ lowercase c := by
  by_cases hc : c.toNat < 0x80
  · rw [isAlphanumeric_of_ascii hc] at h
    rw [lowercase_of_ascii hc]
    exact notMem_of_isAlphanum hx (isAlphanum_toLower hc h)
  · rw [lowercase, if_neg hc]
    split
    · intro hmem
      rcases List.mem_pair.mp hmem with rfl | rfl
      · exact absurd hx (by decide)
      · exact absurd hx (by decide)
    · exact notMem_shifted hpos hx digit_le_of_mem_lowercaseShifts hc

theorem notMem_uppercase {c : Char} (h : isAlphanumeric c = true) : x ∉ uppercase c := by
  by_cases hc : c.toNat < 0x80
  · rw [isAlphanumeric_of_ascii hc] at h
    rw [uppercase_of_ascii hc]
    exact notMem_of_isAlphanum hx (isAlphanum_toUpper hc h)
  · rw [uppercase, if_neg hc]
    split
    · rename_i image hfound
      intro hmem
      obtain ⟨n, hn, heq⟩ := List.mem_map.mp hmem
      have himage := digit_le_of_mem_uppercaseExpansions _ (List.mem_of_find?_eq_some hfound) n hn
      exact ofNat_ne hpos hx himage heq
    · exact notMem_shifted hpos hx digit_le_of_mem_uppercaseShifts hc

theorem notMem_lowercaseWord {w : List Char} (h : ∀ c ∈ w, isAlphanumeric c = true) :
    x ∉ lowercaseWord w := by
  fun_induction lowercaseWord w with
  | case1 => exact List.not_mem_nil
  | case2 =>
    rw [List.mem_singleton]
    rintro rfl
    exact absurd hx (by decide)
  | case3 c r _ ih =>
    obtain ⟨hc, hr⟩ := List.forall_mem_cons.mp h
    rw [List.mem_append, not_or]
    exact ⟨notMem_lowercase hpos hx hc, ih hr⟩

theorem notMem_capitalizedWord {w : List Char} (h : ∀ c ∈ w, isAlphanumeric c = true) :
    x ∉ capitalizedWord w := by
  cases w with
  | nil => exact List.not_mem_nil
  | cons c r =>
    obtain ⟨hc, hr⟩ := List.forall_mem_cons.mp h
    rw [capitalizedWord, List.mem_append, not_or]
    exact ⟨notMem_uppercase hpos hx hc, notMem_lowercaseWord hpos hx hr⟩

theorem notMem_snakeCase (name : String) : x ∉ (snakeCase name).toList := by
  rw [snakeCase, String.toList_ofList]
  intro hmem
  rcases mem_of_mem_intercalate hmem with hmem | ⟨w, hw, hmem⟩
  · rw [List.mem_singleton] at hmem
    rw [hmem] at hx
    exact absurd hx (by decide)
  · obtain ⟨v, hv, rfl⟩ := List.mem_map.mp hw
    exact notMem_lowercaseWord hpos hx (fun _ hc => (mem_of_mem_words hv hc).2) hmem

theorem notMem_pascalCase (name : String) : x ∉ (pascalCase name).toList := by
  rw [pascalCase, String.toList_ofList]
  intro hmem
  obtain ⟨v, hv, hmem⟩ := List.mem_flatMap.mp hmem
  exact notMem_capitalizedWord hpos hx (fun _ hc => (mem_of_mem_words hv hc).2) hmem

end Marks

/-- A name in snake case has no separators of paths, whatever it is made from. -/
theorem slash_notMem_snakeCase (name : String) : '/' ∉ (snakeCase name).toList :=
  notMem_snakeCase (by decide) (by decide) name

end SchemaSdk.Text

namespace SchemaSdk.Schema

/-! ## Identifiers -/

theorem ascii_of_isNamePart {c : Char} (h : isNamePart c = true) : c.toNat < 0x80 := by
  have hparts : (c == '_' || ((c.isUpper || c.isLower) || c.isDigit)) = true := h
  simp only [Bool.or_eq_true, beq_iff_eq] at hparts
  rcases hparts with rfl | (hupper | hlower) | hdigit
  · decide
  · have hle : c.val ≥ 'A'.val ∧ c.val ≤ 'Z'.val := of_decide_eq_true hupper
    exact Nat.lt_of_le_of_lt hle.2 (by decide)
  · have hle : c.val ≤ 'z'.val := of_decide_eq_true (Bool.and_eq_true_iff.mp hlower).2
    exact Nat.lt_of_le_of_lt hle (by decide)
  · have hle : c.val ≤ '9'.val := of_decide_eq_true (Bool.and_eq_true_iff.mp hdigit).2
    exact Nat.lt_of_le_of_lt hle (by decide)

theorem isNamePart_of_spellsName {s : List Char} (h : spellsName s = true) :
    ∀ c ∈ s, isNamePart c = true := by
  cases s with
  | nil => cases h
  | cons d r =>
    simp only [spellsName, Bool.and_eq_true, List.all_eq_true] at h
    obtain ⟨hd, hr⟩ := h
    refine List.forall_mem_cons.mpr ⟨?_, hr⟩
    have hpart : (d == '_' || (d.isAlpha || d.isDigit)) = true := by
      rw [← Bool.or_assoc, Bool.or_eq_true]
      exact .inl hd
    exact hpart

theorem ascii_of_spellsName {s : List Char} (h : spellsName s = true) :
    ∀ c ∈ s, c.toNat < 0x80 :=
  fun c hc => ascii_of_isNamePart (isNamePart_of_spellsName h c hc)

end SchemaSdk.Schema

namespace SchemaSdk.Identifier

open SchemaSdk.Schema

/-- The characters of identifiers: those of names, and the mark of raw identifiers. -/
def isPart (c : Char) : Bool := c == '#' || isNamePart c

theorem isPart_of_mem_escape {name : String} {c : Char}
    (h : ∀ d ∈ name.toList, isNamePart d = true) (hc : c ∈ (escape name).toList) :
    isPart c = true := by
  have hpart : c ∈ name.toList → isPart c = true := fun hc => by simp [isPart, h c hc]
  unfold escape at hc
  split at hc
  · rw [String.toList_append, List.mem_append] at hc
    rcases hc with hc | hc
    · exact hpart hc
    · rw [List.mem_singleton.mp hc]
      rfl
  · split at hc
    · rw [String.toList_append, List.mem_append] at hc
      rcases hc with hc | hc
      · have hraw : c = 'r' ∨ c = '#' := by simpa using hc
        rcases hraw with rfl | rfl <;> rfl
      · exact hpart hc
    · split at hc
      · rw [String.toList_append, List.mem_append] at hc
        rcases hc with hc | hc
        · rw [List.mem_singleton.mp hc]
          rfl
        · exact hpart hc
      · exact hpart hc

variable {name : String} {c : Char}

theorem isPart_of_mem_ofField_of_ascii (h : ∀ d ∈ name.toList, d.toNat < 0x80)
    (hc : c ∈ (ofField name).toList) : isPart c = true := by
  refine isPart_of_mem_escape (fun d hd => ?_) hc
  rw [Text.snakeCase, String.toList_ofList] at hd
  exact Text.isNamePart_of_mem_snakeChars h hd

section Name

variable (h : spellsName name.toList = true)

include h

theorem isNamePart_of_mem_pascalCase (hc : c ∈ (Text.pascalCase name).toList) :
    isNamePart c = true := by
  rw [Text.pascalCase, String.toList_ofList] at hc
  simp [isNamePart, Text.isAlphanum_of_mem_pascalChars (ascii_of_spellsName h) hc]

theorem isPart_of_mem_ofType (hc : c ∈ (ofType name).toList) : isPart c = true :=
  isPart_of_mem_escape (fun _ hd => isNamePart_of_mem_pascalCase h hd) hc

theorem isPart_of_mem_ofField (hc : c ∈ (ofField name).toList) : isPart c = true :=
  isPart_of_mem_ofField_of_ascii (ascii_of_spellsName h) hc

end Name

end SchemaSdk.Identifier
