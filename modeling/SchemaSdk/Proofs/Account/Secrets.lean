import SchemaSdk.Proofs.Account.Stored

/-!
# Secrets in a keyring

What calls on an entry of a keyring do to its secrets. No call changes the secret of another entry,
whatever the mode of the keyring; a working keyring keeps what it is given and forgets what it
should.
-/
namespace SchemaSdk.Account.Keyring

variable {k k' k'' : Keyring} {entry other : EntryName} {secret : String}

theorem lookup_put (items : List (EntryName × String)) :
    ((entry, secret) :: without items entry).lookup other =
      if other = entry then some secret else items.lookup other := by
  rw [lookup_cons_eq_ite, without, lookup_filter_ne]
  by_cases h : other = entry <;> simp [h]

/-! ## Single calls -/

/-- What writing a secret answers and leaves: it is refused, ignored or done. -/
theorem set_cases (k : Keyring) (entry : EntryName) (secret : String) :
    k.set entry secret = (.error .noAccess, k.record .set entry) ∨
      k.set entry secret = (.ok (), k.record .set entry) ∨
      k.set entry secret = (.ok (), { k.record .set entry with
        items := (entry, secret) :: without k.items entry }) := by
  obtain ⟨items, mode, calls⟩ := k
  cases hrefuses : mode.refuses ⟨.set, entry⟩ with
  | true => exact .inl (by simp [set, record, hrefuses])
  | false => cases mode <;> simp [set, record, hrefuses]

/-- A secret that could not be written has changed nothing. -/
theorem secret?_set_of_error {e : KeyringError} (h : (k.set entry secret).1 = .error e) :
    (k.set entry secret).2.secret? = k.secret? := by
  rcases set_cases k entry secret with hset | hset | hset
  · rw [hset]
    rfl
  · rw [hset] at h
    cases h
  · rw [hset] at h
    cases h

/-- Asking for a secret changes nothing but the record of calls. -/
theorem get_snd (k : Keyring) (entry : EntryName) : (k.get entry).2 = k.record .get entry := by
  obtain ⟨items, mode, calls⟩ := k
  cases hrefuses : mode.refuses ⟨.get, entry⟩ with
  | true => simp [get, record, hrefuses]
  | false =>
    cases hfound : items.lookup entry <;> cases mode <;>
      simp [get, record, secret?, hrefuses, hfound]

/-- What is answered to a request for a secret is a matter of the mode and the secret. -/
theorem get_fst_congr (hmode : k'.mode = k.mode) (hsecret : k'.secret? entry = k.secret? entry) :
    (k'.get entry).1 = (k.get entry).1 := by
  obtain ⟨items, mode, calls⟩ := k
  obtain ⟨items', mode', calls'⟩ := k'
  cases hmode
  rw [secret?, secret?] at hsecret
  cases hrefuses : mode.refuses ⟨.get, entry⟩ with
  | true => simp [get, record, hrefuses]
  | false =>
    cases hfound : items.lookup entry <;> rw [hfound] at hsecret <;> cases mode <;>
      simp [get, record, secret?, hrefuses, hfound, hsecret]

/-- What removing a secret answers and leaves: it fails, or the secret is gone. -/
theorem delete_cases (k : Keyring) (entry : EntryName) :
    (∃ e, k.delete entry = (.error e, k.record .delete entry)) ∨
      k.delete entry = (.ok (), { k.record .delete entry with items := without k.items entry }) := by
  obtain ⟨items, mode, calls⟩ := k
  cases hrefuses : mode.refuses ⟨.delete, entry⟩ with
  | true => exact .inl ⟨.noAccess, by simp [delete, record, hrefuses]⟩
  | false =>
    cases hfound : items.lookup entry with
    | none => exact .inl ⟨.noEntry, by simp [delete, record, secret?, hrefuses, hfound]⟩
    | some secret => exact .inr (by simp [delete, record, secret?, hrefuses, hfound])

/-! ## Other entries -/

/-- A keyring of the same mode, with the same secrets but for an entry. -/
structure SameBut (entry : EntryName) (k k' : Keyring) : Prop where
  mode : k'.mode = k.mode
  secret? : ∀ other, other ≠ entry → k'.secret? other = k.secret? other

theorem SameBut.refl (entry : EntryName) (k : Keyring) : SameBut entry k k :=
  ⟨rfl, fun _ _ => rfl⟩

theorem SameBut.trans (h : SameBut entry k k') (h' : SameBut entry k' k'') :
    SameBut entry k k'' :=
  ⟨h'.mode.trans h.mode, fun other hne => (h'.secret? other hne).trans (h.secret? other hne)⟩

theorem sameBut_of_items (hmode : k'.mode = k.mode)
    (hitems : k'.items = k.items ∨ k'.items = without k.items entry ∨
      ∃ secret, k'.items = (entry, secret) :: without k.items entry) : SameBut entry k k' := by
  refine ⟨hmode, ?_⟩
  intro other hne
  rw [Keyring.secret?, Keyring.secret?]
  rcases hitems with hitems | hitems | ⟨secret, hitems⟩
  · rw [hitems]
  · rw [hitems, without, lookup_filter_ne, if_neg hne]
  · rw [hitems, lookup_put, if_neg hne]

theorem sameBut_set (k : Keyring) (entry : EntryName) (secret : String) :
    SameBut entry k (k.set entry secret).2 := by
  rcases set_cases k entry secret with h | h | h
  · exact sameBut_of_items (by rw [h]; rfl) (.inl (by rw [h]; rfl))
  · exact sameBut_of_items (by rw [h]; rfl) (.inl (by rw [h]; rfl))
  · exact sameBut_of_items (by rw [h]; rfl) (.inr (.inr ⟨secret, by rw [h]⟩))

theorem mode_get (k : Keyring) (entry : EntryName) : (k.get entry).2.mode = k.mode := by
  rw [get_snd]
  rfl

theorem items_get (k : Keyring) (entry : EntryName) : (k.get entry).2.items = k.items := by
  rw [get_snd]
  rfl

theorem sameBut_get (k : Keyring) (entry : EntryName) : SameBut entry k (k.get entry).2 :=
  sameBut_of_items (mode_get k entry) (.inl (items_get k entry))

theorem sameBut_delete (k : Keyring) (entry : EntryName) : SameBut entry k (k.delete entry).2 := by
  rcases delete_cases k entry with ⟨e, h⟩ | h
  · exact sameBut_of_items (by rw [h]; rfl) (.inl (by rw [h]; rfl))
  · exact sameBut_of_items (by rw [h]; rfl) (.inr (.inl (by rw [h])))

theorem sameBut_check (k : Keyring) (entry : EntryName) : SameBut entry k (k.check entry).2 := by
  rw [check]
  split
  · exact .refl entry k
  · have hset := sameBut_set k entry checkSecret
    split
    · next k₁ heq =>
      rw [heq] at hset
      exact hset
    · next k₁ heq =>
      rw [heq] at hset
      exact (hset.trans (sameBut_get k₁ entry)).trans (sameBut_delete _ entry)

/-! ## Working keyrings -/

theorem named_of_working (h : k.mode = .working) : k.named = .ok () := by
  rw [named, h]

theorem set_of_working (h : k.mode = .working) : (k.set entry secret).1 = .ok () := by
  obtain ⟨items, mode, calls⟩ := k
  cases h
  rfl

theorem secret?_set_of_working (h : k.mode = .working) :
    (k.set entry secret).2.secret? other =
      if other = entry then some secret else k.secret? other := by
  obtain ⟨items, mode, calls⟩ := k
  cases h
  exact lookup_put items

theorem secret?_delete_of_working (h : k.mode = .working) :
    (k.delete entry).2.secret? other = if other = entry then none else k.secret? other := by
  obtain ⟨items, mode, calls⟩ := k
  cases h
  cases hfound : items.lookup entry with
  | none =>
    by_cases hsame : other = entry
    · subst hsame
      simp [delete, record, secret?, hfound]
    · simp [delete, record, secret?, hfound, hsame]
  | some secret =>
    have hremoved := lookup_filter_ne items entry other
    simpa [delete, record, secret?, hfound, without] using hremoved

/-- A check leaves nothing behind in a working keyring, not even what stood in its entry. -/
theorem check_of_working (h : k.mode = .working) : (k.check entry).1 = true ∧
    ∀ other, (k.check entry).2.secret? other = if other = entry then none else k.secret? other := by
  obtain ⟨items, mode, calls⟩ := k
  cases h
  set written : Keyring :=
    ⟨(entry, checkSecret) :: without items entry, .working, calls ++ [⟨.set, entry⟩]⟩ with hwritten
  have hget : (written.get entry).1 = .ok checkSecret := by
    simp [hwritten, get, record, secret?]
  have hcheck : Keyring.check ⟨items, .working, calls⟩ entry =
      ((written.get entry).1.toOption == some checkSecret,
        ((written.get entry).2.delete entry).2) := rfl
  rw [hcheck]
  refine ⟨by simp [hget, Except.toOption], ?_⟩
  intro other
  rw [secret?_delete_of_working (mode_get written entry), secret?, items_get]
  by_cases hsame : other = entry
  · rw [if_pos hsame, if_pos hsame]
  · rw [if_neg hsame, if_neg hsame]
    exact (lookup_put items).trans (if_neg hsame)

/-- Whether a keyring has an entry. -/
def Has (k : Keyring) (entry : EntryName) : Prop := (k.secret? entry).isSome = true

theorem Has.of_set (hmode : k.mode = .working) (h : (k.set entry secret).2.Has other) :
    k.Has other ∨ other = entry := by
  rw [Has, secret?_set_of_working hmode] at h
  split at h
  · next hsame => exact .inr hsame
  · exact .inl h

theorem Has.of_delete (hmode : k.mode = .working) (h : (k.delete entry).2.Has other) :
    k.Has other ∧ other ≠ entry := by
  rw [Has, secret?_delete_of_working hmode] at h
  split at h
  · cases h
  · next hne => exact ⟨h, hne⟩

theorem Has.of_check (hmode : k.mode = .working) (h : (k.check entry).2.Has other) :
    k.Has other := by
  rw [Has, (check_of_working hmode).2] at h
  split at h
  · cases h
  · exact h

end SchemaSdk.Account.Keyring
