import SchemaSdk.Proofs.Text.IdentifierCharacters

/-!
# Where words start

The words of a name are read with a look at the next character. In a text of letters and numbers the
place where a word starts can be told without it: a capital starts one if the last letter with a
case before it is in lower case, or if that is in upper case and lower case follows. So the words of
such a text are what it falls into at these places.
-/
namespace SchemaSdk.Text

/-! ## Characters of one case -/

/-- The number whose bits tell which code points the runs hold. -/
def bitsOfRuns (table : List Run) : Nat :=
  table.foldr (fun r bits => r.points.foldr (fun n bits => 1 <<< n ||| bits) bits) 0

theorem testBit_of_inRuns {table : List Run} {n : Nat} (h : inRuns table n = true) :
    (bitsOfRuns table).testBit n = true := by
  have hkeeps (points : List Nat) (bits : Nat) (hn : n ∈ points ∨ bits.testBit n = true) :
      (points.foldr (fun n bits => 1 <<< n ||| bits) bits).testBit n = true := by
    induction points with
    | nil => exact hn.resolve_left List.not_mem_nil
    | cons m points ih =>
      rw [List.foldr_cons, Nat.testBit_or, Bool.or_eq_true]
      rcases hn with hn | hn
      · rcases List.mem_cons.mp hn with rfl | hn
        · left
          simp [Nat.testBit_shiftLeft]
        · exact .inr (ih (.inl hn))
      · exact .inr (ih (.inr hn))
  induction table with
  | nil => cases h
  | cons r table ih =>
    rcases Bool.or_eq_true_iff.mp h with hr | htable
    · exact hkeeps _ _ (.inl (Run.mem_points hr))
    · exact hkeeps _ _ (.inr (ih htable))

theorem isLowercase_of_isUppercase {c : Char} (h : isUppercase c = true) :
    isLowercase c = false := by
  have hdisjoint : bitsOfRuns uppercaseRuns &&& bitsOfRuns lowercaseRuns = 0 := by decide +kernel
  by_cases hc : c.toNat < 0x80
  · rw [isUppercase_of_ascii hc] at h
    rw [isLowercase_of_ascii hc]
    exact forall_ascii (P := fun c => c.isUpper = true → c.isLower = false) (by decide) c hc h
  · rw [isUppercase, if_neg hc] at h
    rw [isLowercase, if_neg hc, ← Bool.not_eq_true]
    intro hlower
    have hboth := congrArg (·.testBit c.toNat) hdisjoint
    simp [testBit_of_inRuns h, testBit_of_inRuns hlower] at hboth

/-- Upper case is its own upper case. -/
theorem uppercase_of_isUppercase {c : Char} (h : isUppercase c = true) : uppercase c = [c] := by
  have hexpansions : ∀ e ∈ uppercaseExpansions,
      (bitsOfRuns uppercaseRuns).testBit e.1 = false := by decide +kernel
  have hshifts : ∀ s ∈ uppercaseShifts, ∀ n ∈ s.run.points,
      (bitsOfRuns uppercaseRuns).testBit n = false := by decide +kernel
  by_cases hc : c.toNat < 0x80
  · rw [isUppercase_of_ascii hc] at h
    rw [uppercase_of_ascii hc]
    exact forall_ascii (P := fun c => c.isUpper = true → [c.toUpper] = [c]) (by decide) c hc h
  · rw [isUppercase, if_neg hc] at h
    have hbit := testBit_of_inRuns h
    rw [uppercase, if_neg hc]
    split
    · next hfound =>
      have hcode := List.find?_some hfound
      rw [beq_iff_eq] at hcode
      have hno := hexpansions _ (List.mem_of_find?_eq_some hfound)
      rw [hcode, hbit] at hno
      cases hno
    · rw [shifted?]
      cases hfound : uppercaseShifts.find? (·.run.contains c.toNat) with
      | none => rfl
      | some s =>
        have hrun := List.find?_some hfound
        have hno := hshifts s (List.mem_of_find?_eq_some hfound) _ (Run.mem_points hrun)
        rw [hbit] at hno
        cases hno

/-! ## Where words start -/

/-- A character starts a word behind others in that case: it is a capital behind lower case, or one
behind upper case and before lower case. -/
def StartsWord (w : WordCase) (c : Char) (after : List Char) : Prop :=
  isUppercase c = true ∧ (w = .lower ∨ w = .upper ∧ after.head?.any isLowercase = true)

instance (w : WordCase) (c : Char) (after : List Char) : Decidable (StartsWord w c after) :=
  inferInstanceAs (Decidable (_ ∧ _))

/-- The words of a text of letters and numbers, cut where words start; `word` is the reversed start
of the first and `w` the case of what stands before. -/
def cutFrom (w : WordCase) (word : List Char) : List Char → List (List Char)
  | [] => if word.isEmpty then [] else [word.reverse]
  | c :: r =>
    if word ≠ [] ∧ StartsWord w c r then word.reverse :: cutFrom (w.after c) [c] r
    else cutFrom (w.after c) (c :: word) r

/-- The case of the last letter that has one. -/
def caseOf (s : List Char) : WordCase := s.foldl WordCase.after .none

theorem WordCase.after_of_isUppercase (w : WordCase) {c : Char} (h : isUppercase c = true) :
    w.after c = .upper := by
  simp [after, h, isLowercase_of_isUppercase h]

theorem WordCase.after_of_isLowercase (w : WordCase) {c : Char} (h : isLowercase c = true) :
    w.after c = .lower := by
  simp [after, h]

theorem cutFrom_cons_of_not {w : WordCase} {c : Char} {r : List Char} (h : ¬ StartsWord w c r)
    (word : List Char) : cutFrom w word (c :: r) = cutFrom (w.after c) (c :: word) r := by
  rw [cutFrom, if_neg fun hboth => h hboth.2]

/-- The reader of words looks one character ahead; behind a word that it has ended in lower case it
forgets the case. -/
theorem wordsFrom_eq_cutFrom {w : WordCase} {word s : List Char} (hupper : w = .upper → word ≠ [])
    (hlower : word ≠ [] → w = .lower → s.head?.any isUppercase = false) :
    wordsFrom w word s = cutFrom w word s := by
  fun_induction wordsFrom w word s with
  | case1 w word h => rw [cutFrom, if_pos h]
  | case2 w word h => rw [cutFrom, if_neg h]
  | case3 w word c =>
    have hstays : ¬ (word ≠ [] ∧ StartsWord w c []) := by
      rintro ⟨hword, hc, hw | ⟨_, hnext⟩⟩
      · simp [hc] at hlower
        exact hlower hword hw
      · cases hnext
    rw [cutFrom, if_neg hstays]
    rfl
  | case4 w word c d r h ih =>
    obtain ⟨hcase, hd⟩ := h
    have hstays : ¬ StartsWord w c (d :: r) := by
      rintro ⟨hc, _⟩
      rw [w.after_of_isUppercase hc] at hcase
      cases hcase
    have hstarts : (c :: word) ≠ [] ∧ StartsWord .lower d r :=
      ⟨List.cons_ne_nil c word, hd, .inl rfl⟩
    have hfirst : ¬ (([] : List Char) ≠ [] ∧ StartsWord .none d r) := fun hboth => hboth.1 rfl
    rw [ih (fun hupper => by cases hupper) (fun hne => absurd rfl hne),
      cutFrom_cons_of_not hstays, hcase, cutFrom, if_neg hfirst, cutFrom, if_pos hstarts,
      WordCase.after_of_isUppercase _ hd, WordCase.after_of_isUppercase _ hd]
  | case5 w word c d r h h' ih =>
    obtain ⟨hw, hc, hd⟩ := h'
    have hstays (w : WordCase) : ¬ StartsWord w d r := by
      rintro ⟨hupper, _⟩
      rw [isLowercase_of_isUppercase hupper] at hd
      cases hd
    have hstarts : word ≠ [] ∧ StartsWord w c (d :: r) := ⟨hupper hw, hc, .inr ⟨hw, hd⟩⟩
    rw [ih (fun hupper => by cases hupper) (fun _ hlower => by cases hlower),
      cutFrom_cons_of_not (hstays _), cutFrom, if_pos hstarts, cutFrom_cons_of_not (hstays _),
      WordCase.after_of_isLowercase _ hd, WordCase.after_of_isLowercase _ hd]
  | case6 w word c d r h h' ih =>
    have hstays : ¬ (word ≠ [] ∧ StartsWord w c (d :: r)) := by
      rintro ⟨hword, hc, hw | ⟨hw, hnext⟩⟩
      · have hno := hlower hword hw
        rw [List.head?_cons, Option.any_some, hc] at hno
        cases hno
      · exact h' ⟨hw, hc, hnext⟩
    rw [cutFrom, if_neg hstays]
    refine ih (fun _ => List.cons_ne_nil c word) fun _ hw => ?_
    rw [List.head?_cons, Option.any_some, ← Bool.not_eq_true]
    exact fun hd => h ⟨hw, hd⟩

/-- The word that is read goes on to its end. -/
theorem exists_cutFrom_eq_cons {word : List Char} (hword : word ≠ []) (w : WordCase)
    (s : List Char) : ∃ v vs, cutFrom w word s = (word.reverse ++ v) :: vs := by
  induction s generalizing w word with
  | nil => exact ⟨[], [], by simp [cutFrom, hword]⟩
  | cons c r ih =>
    rw [cutFrom]
    split
    · exact ⟨[], _, by rw [List.append_nil]⟩
    · obtain ⟨v, vs, heq⟩ := ih (List.cons_ne_nil c word) (w.after c)
      exact ⟨c :: v, vs, by simp [heq]⟩

theorem piecesFrom_of_letters {piece s : List Char} (h : ∀ c ∈ s, isAlphanumeric c = true) :
    piecesFrom piece s = if piece.reverse ++ s = [] then [] else [piece.reverse ++ s] := by
  fun_induction piecesFrom piece s with
  | case1 piece hp => simp_all
  | case2 piece hp => simp_all
  | case3 piece c r hc ih =>
    rw [ih (List.forall_mem_cons.mp h).2]
    simp
  | case4 piece c r hc hp ih => exact absurd (h c List.mem_cons_self) hc
  | case5 piece c r hc hp ih => exact absurd (h c List.mem_cons_self) hc

/-- **The words of a text of letters and numbers** are what it falls into where words start. -/
theorem words_eq_cutFrom {s : List Char} (h : ∀ c ∈ s, isAlphanumeric c = true) :
    words s = cutFrom .none [] s := by
  rw [words, piecesFrom_of_letters h, List.reverse_nil, List.nil_append]
  by_cases hs : s = []
  · rw [if_pos hs, hs]
    rfl
  · rw [if_neg hs, List.flatMap_singleton]
    exact wordsFrom_eq_cutFrom (fun hupper => by cases hupper) fun hne => absurd rfl hne

end SchemaSdk.Text
