import SchemaSdk.Proofs.Text.Words

/-!
# Names in snake case

The snake case of an ASCII name has no upper case letters, so nothing of it is lost in upper case.
An underscore keeps apart the words that stand on its two sides.
-/
namespace SchemaSdk.Text

/-! ## Upper case -/

theorem isUpper_toLower {c : Char} (hc : c.toNat < 0x80) : c.toLower.isUpper = false :=
  forall_ascii (P := fun c => c.toLower.isUpper = false) (by decide) c hc

theorem toLower_toUpper {c : Char} (hc : c.toNat < 0x80) (h : c.isUpper = false) :
    c.toUpper.toLower = c :=
  forall_ascii (P := fun c => c.isUpper = false → c.toUpper.toLower = c) (by decide) c hc h

theorem isUpper_of_mem_lowercaseWord {w : List Char} (h : ∀ d ∈ w, d.toNat < 0x80) {c : Char}
    (hc : c ∈ lowercaseWord w) : c.isUpper = false := by
  fun_induction lowercaseWord w with
  | case1 => cases hc
  | case2 => exact absurd (h 'Σ' List.mem_cons_self) (by decide)
  | case3 d r _ ih =>
    obtain ⟨hd, hr⟩ := List.forall_mem_cons.mp h
    rcases List.mem_append.mp hc with hc | hc
    · rw [lowercase_of_ascii hd, List.mem_singleton] at hc
      rw [hc]
      exact isUpper_toLower hd
    · exact ih hr hc

section Ascii

variable {s : List Char} (hs : ∀ d ∈ s, d.toNat < 0x80)

include hs

theorem isUpper_of_mem_snakeChars {c : Char} (hc : c ∈ snakeChars s) : c.isUpper = false := by
  rcases mem_of_mem_intercalate hc with hc | ⟨w, hw, hc⟩
  · rw [List.mem_singleton.mp hc]
    rfl
  · obtain ⟨v, hv, rfl⟩ := List.mem_map.mp hw
    exact isUpper_of_mem_lowercaseWord (fun d hd => (ascii_of_mem_words hs hv d hd).1) hc

theorem ascii_of_mem_snakeChars {c : Char} (hc : c ∈ snakeChars s) : c.toNat < 0x80 :=
  Schema.ascii_of_isNamePart (isNamePart_of_mem_snakeChars hs hc)

theorem flatMap_uppercase_of_ascii : s.flatMap uppercase = s.map Char.toUpper := by
  rw [← List.flatMap_singleton' (s.map Char.toUpper), List.flatMap_map]
  exact List.flatMap_congr fun c hc => uppercase_of_ascii (hs c hc)

/-- Lower case brings back what a name in snake case was before upper case. -/
theorem map_toLower_upperCase_snakeChars :
    ((snakeChars s).flatMap uppercase).map Char.toLower = snakeChars s := by
  have hascii : ∀ c ∈ snakeChars s, c.toNat < 0x80 := fun _ hc => ascii_of_mem_snakeChars hs hc
  rw [flatMap_uppercase_of_ascii hascii, List.map_map]
  calc (snakeChars s).map (Char.toLower ∘ Char.toUpper)
      = (snakeChars s).map id := List.map_congr_left fun c hc =>
        toLower_toUpper (hascii c hc) (isUpper_of_mem_snakeChars hs hc)
    _ = snakeChars s := List.map_id _

end Ascii

/-- Names in snake case that are the same in upper case are the same. -/
theorem snakeCase_inj_of_upperCase {s r : String} (hs : ∀ c ∈ s.toList, c.toNat < 0x80)
    (hr : ∀ c ∈ r.toList, c.toNat < 0x80)
    (h : upperCase (snakeCase s) = upperCase (snakeCase r)) : snakeCase s = snakeCase r := by
  simp only [upperCase, snakeCase, String.toList_ofList, String.ofList_inj] at h ⊢
  rw [← map_toLower_upperCase_snakeChars hs, ← map_toLower_upperCase_snakeChars hr, h]

/-! ## Words around an underscore -/

theorem piecesFrom_append_underscore (piece s r : List Char) :
    piecesFrom piece (s ++ '_' :: r) = piecesFrom piece s ++ piecesFrom [] r := by
  have hunderscore : isAlphanumeric '_' = false := by decide
  fun_induction piecesFrom piece s with
  | case1 piece h => simp [piecesFrom, hunderscore, h]
  | case2 piece h => simp [piecesFrom, hunderscore, h]
  | case3 piece c s hc ih => simpa [piecesFrom, hc] using ih
  | case4 piece c s hc h ih => simpa [piecesFrom, hc, h] using ih
  | case5 piece c s hc h ih => simpa [piecesFrom, hc, h] using ih

theorem words_append_underscore (s r : List Char) :
    words (s ++ '_' :: r) = words s ++ words r := by
  rw [words, piecesFrom_append_underscore, List.flatMap_append]
  rfl

theorem infix_intercalate {sep l : List Char} {ls : List (List Char)} (h : l ∈ ls) :
    l <:+: sep.intercalate ls := by
  induction ls with
  | nil => cases h
  | cons m ls ih =>
    by_cases hls : ls = []
    · subst hls
      have hsingle : sep.intercalate [m] = l := by
        rw [List.intercalate_singleton, List.mem_singleton.mp h]
      exact ⟨[], [], by simp [hsingle]⟩
    · rw [List.intercalate_cons_of_ne_nil hls]
      rcases List.mem_cons.mp h with rfl | h
      · exact ((List.prefix_append l sep).trans (List.prefix_append _ _)).isInfix
      · exact (ih h).trans (List.suffix_append _ _).isInfix

/-- A word behind an underscore appears in the snake case of the whole name. -/
theorem infix_snakeChars_append (s : List Char) {r w : List Char} (hw : w ∈ words r) :
    lowercaseWord w <:+: snakeChars (s ++ '_' :: r) := by
  refine infix_intercalate (List.mem_map_of_mem ?_)
  rw [words_append_underscore]
  exact List.mem_append_right _ hw

end SchemaSdk.Text
