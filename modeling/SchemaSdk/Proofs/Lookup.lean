import Mathlib.Data.List.Nodup

/-!
# Lists of keys and values

What a lookup finds after a key has got a value, or has lost it. File systems, keyrings,
configurations and tables under construction keep what they hold in such lists. What is written
item by item is read back so, and a result of which something is known is one.
-/
namespace SchemaSdk

section Results

variable {ε α : Type} {x : Except ε α}

theorem eq_ok_of_toOption {a : α} (h : x.toOption = some a) : x = .ok a := by
  cases x with
  | error e => cases h
  | ok b => rw [Option.some.inj h]

/-- A result with a property is one. -/
theorem exists_eq_ok_of_any {p : α → Bool} (h : x.toOption.any p = true) :
    ∃ a, x = .ok a ∧ p a = true := by
  cases x with
  | error e => cases h
  | ok a => exact ⟨a, rfl, h⟩

end Results

/-- Items that are read back one by one are read back together. -/
theorem mapM_map_eq_some {α β γ : Type} {f : β → Option γ} {g : α → β} {k : α → γ} {xs : List α}
    (h : ∀ x ∈ xs, f (g x) = some (k x)) : (xs.map g).mapM f = some (xs.map k) := by
  induction xs with
  | nil => rfl
  | cons x xs ih =>
    obtain ⟨hx, hxs⟩ := List.forall_mem_cons.mp h
    simp [List.mapM_cons, hx, ih hxs]

/-- Each item that was read comes from one that was there to read. -/
theorem exists_of_mem_mapM {α β : Type} {f : α → Option β} {xs : List α} {ys : List β} {y : β}
    (h : xs.mapM f = some ys) (hy : y ∈ ys) : ∃ x ∈ xs, f x = some y := by
  induction xs generalizing ys with
  | nil =>
    cases h
    cases hy
  | cons x xs ih =>
    simp only [List.mapM_cons, Option.bind_eq_bind, Option.bind_eq_some_iff] at h
    obtain ⟨first, hfirst, rest, hrest, h⟩ := h
    cases h
    rcases List.mem_cons.mp hy with rfl | hy
    · exact ⟨x, List.mem_cons_self, hfirst⟩
    · obtain ⟨x', hx', hf⟩ := ih hrest hy
      exact ⟨x', List.mem_cons_of_mem x hx', hf⟩

variable {α β : Type} [BEq α] [LawfulBEq α]

theorem lookup_eq_none_iff_notMem_keys {l : List (α × β)} {k : α} :
    l.lookup k = none ↔ k ∉ l.map Prod.fst := by
  rw [List.lookup_eq_none_iff]
  simp only [bne_iff_ne, ne_eq, List.mem_map, not_exists, not_and]
  exact forall₂_congr fun e _ => ne_comm

theorem mem_of_lookup_eq_some {l : List (α × β)} {k : α} {v : β} (h : l.lookup k = some v) :
    (k, v) ∈ l := by
  obtain ⟨before, after, rfl, _⟩ := List.lookup_eq_some_iff.mp h
  simp

theorem keys_map_set (l : List (α × β)) (k : α) (v : β) :
    (l.map fun e => if e.1 == k then (k, v) else e).map Prod.fst = l.map Prod.fst := by
  rw [List.map_map]
  apply List.map_congr_left
  intro e _
  rw [Function.comp_apply]
  split
  · next he => exact (beq_iff_eq.mp he).symm
  · rfl

theorem any_key_eq_true_iff {l : List (α × β)} {k : α} :
    l.any (·.1 == k) = true ↔ k ∈ l.map Prod.fst := by
  simp [List.any_eq_true]

variable [DecidableEq α]

theorem lookup_cons_eq_ite (a : α) (b : β) (l : List (α × β)) (k : α) :
    ((a, b) :: l).lookup k = if k = a then some b else l.lookup k := by
  by_cases h : k = a
  · simp [h]
  · rw [List.lookup_cons, beq_false_of_ne h, if_neg h]

theorem lookup_map_set (l : List (α × β)) (k : α) (v : β) (k' : α) :
    (l.map fun e => if e.1 == k then (k, v) else e).lookup k' =
      if k' = k then (l.lookup k').map fun _ => v else l.lookup k' := by
  induction l with
  | nil => simp
  | cons e l ih =>
    obtain ⟨a, b⟩ := e
    rw [List.map_cons]
    by_cases ha : a = k
    · subst ha
      rw [if_pos BEq.rfl, lookup_cons_eq_ite, lookup_cons_eq_ite, ih]
      by_cases hk : k' = a <;> simp [hk]
    · rw [if_neg (by simpa using ha), lookup_cons_eq_ite, lookup_cons_eq_ite, ih]
      by_cases hk : k' = a
      · subst hk
        simp [ha]
      · simp [hk]

/-- A key has the value that it got, and every other key has what it had. -/
theorem lookup_set (l : List (α × β)) (k : α) (v : β) (k' : α) :
    (if l.any (·.1 == k) then l.map fun e => if e.1 == k then (k, v) else e
      else l ++ [(k, v)]).lookup k' = if k' = k then some v else l.lookup k' := by
  by_cases hpresent : k ∈ l.map Prod.fst
  · rw [if_pos (any_key_eq_true_iff.mpr hpresent), lookup_map_set]
    by_cases hk : k' = k
    · subst hk
      rw [if_pos rfl, if_pos rfl]
      cases hfound : l.lookup k' with
      | none => exact absurd hpresent (lookup_eq_none_iff_notMem_keys.mp hfound)
      | some b => rfl
    · rw [if_neg hk, if_neg hk]
  · rw [if_neg (mt any_key_eq_true_iff.mp hpresent), List.lookup_append, lookup_cons_eq_ite]
    by_cases hk : k' = k
    · subst hk
      simp [lookup_eq_none_iff_notMem_keys.mpr hpresent]
    · simp [hk]

/-- A removed key has no value, and every other key has what it had. -/
theorem lookup_filter_ne (l : List (α × β)) (k k' : α) :
    (l.filter (·.1 != k)).lookup k' = if k' = k then none else l.lookup k' := by
  induction l with
  | nil => simp
  | cons e l ih =>
    obtain ⟨a, b⟩ := e
    rw [lookup_cons_eq_ite]
    by_cases ha : a = k
    · subst ha
      rw [List.filter_cons_of_neg (by simp), ih]
      by_cases hk : k' = a <;> simp [hk]
    · rw [List.filter_cons_of_pos (by simpa using ha), lookup_cons_eq_ite, ih]
      by_cases hk : k' = a
      · subst hk
        simp [ha]
      · simp [hk]

end SchemaSdk
