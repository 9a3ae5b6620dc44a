import SchemaSdk.Proofs.Account.Isolation

/-!
# Entries of checks

Before a login, the keyring is checked with an entry whose name is that of an entry for tokens with
a mark behind it. Names of clients are free, so the entry of a client that ends in the mark looks
like that of a check, and the check takes its tokens away. All other entries are out of the reach of
any check.
-/
namespace SchemaSdk.Account

open SchemaSdk.Login

/-! ## Names with a mark -/

/-- A mark without a separator, behind a text that has one, stands behind the last part of it. -/
theorem append_mark_eq_iff {α : Type} {a b c mark : List α} {separator : α}
    (hmark : separator ∉ mark) : a ++ mark = b ++ separator :: c ↔
      ∃ d, c = d ++ mark ∧ a = b ++ separator :: d := by
  constructor
  · intro h
    rcases List.append_eq_append_iff.mp h with ⟨rest, _, hrest⟩ | ⟨rest, ha, hrest⟩
    · exact absurd (by simp [hrest]) hmark
    · cases rest with
      | nil =>
        rw [List.nil_append] at hrest
        exact absurd (by simp [← hrest]) hmark
      | cons x d =>
        obtain ⟨rfl, hc⟩ := List.cons.inj hrest
        exact ⟨d, hc, ha⟩
  · rintro ⟨d, rfl, rfl⟩
    simp

/-- The entry of a stored profile looks like the check before a login to another one: its client ends
in the mark of checks, and without the mark its entry is that of the login. -/
def Profile.LooksLikeCheck (stored : Profile) (other : String) (p : Profile) (name : String) :
    Prop :=
  ∃ id, stored.clientId = id ++ "#check" ∧
    p.tokenEntry name = { stored with clientId := id }.tokenEntry other

variable {p stored : Profile} {name other : String}

theorem Profile.checkEntry_eq_tokenEntry_iff :
    p.checkEntry name = stored.tokenEntry other ↔ stored.LooksLikeCheck other p name := by
  have hmark : '@' ∉ "#check".toList := by decide
  have hsplit := append_mark_eq_iff hmark (a := name.toList ++ '@' :: p.clientId.toList)
    (b := other.toList) (c := stored.clientId.toList)
  have hentry : p.checkEntry name = stored.tokenEntry other ↔
      name.toList ++ '@' :: p.clientId.toList ++ "#check".toList =
        other.toList ++ '@' :: stored.clientId.toList := by
    simp [checkEntry, tokenEntry, ← String.toList_inj]
  rw [hentry, hsplit]
  constructor
  · rintro ⟨d, hclient, hname⟩
    refine ⟨String.ofList d, ?_, ?_⟩
    · rw [← String.toList_inj, String.toList_append, String.toList_ofList, hclient]
    · simp [tokenEntry, ← String.toList_inj, hname]
  · rintro ⟨id, hclient, hname⟩
    refine ⟨id.toList, ?_, ?_⟩
    · rw [hclient, String.toList_append]
    · simpa [tokenEntry, ← String.toList_inj] using hname

/-! ## Calls of a check -/

namespace Keyring

variable {k k' : Keyring} {entry : EntryName}

theorem calls_set (k : Keyring) (entry : EntryName) (secret : String) :
    (k.set entry secret).2.calls = k.calls ++ [⟨.set, entry⟩] := by
  rcases set_cases k entry secret with h | h | h <;> rw [h] <;> rfl

theorem calls_get (k : Keyring) (entry : EntryName) :
    (k.get entry).2.calls = k.calls ++ [⟨.get, entry⟩] := by
  rw [get_snd]
  rfl

theorem calls_delete (k : Keyring) (entry : EntryName) :
    (k.delete entry).2.calls = k.calls ++ [⟨.delete, entry⟩] := by
  rcases delete_cases k entry with ⟨e, h⟩ | h <;> rw [h] <;> rfl

/-- A check calls for no entry but its own. -/
theorem calls_check (k : Keyring) (entry : EntryName) :
    ∃ more, (k.check entry).2.calls = k.calls ++ more ∧ ∀ call ∈ more, call.entry = entry := by
  have hset := calls_set k entry checkSecret
  rw [check]
  split
  · exact ⟨[], by simp⟩
  · split
    · next written hwritten =>
      rw [hwritten] at hset
      exact ⟨_, hset, by simp⟩
    · next written hwritten =>
      rw [hwritten] at hset
      refine ⟨[⟨.set, entry⟩, ⟨.get, entry⟩, ⟨.delete, entry⟩], ?_, by simp⟩
      change ((written.get entry).2.delete entry).2.calls = _
      rw [calls_delete, calls_get, hset]
      simp

/-- An entry has the secret that it had, and no further call was for it. -/
structure Untouched (entry : EntryName) (k k' : Keyring) : Prop where
  secret? : k'.secret? entry = k.secret? entry
  calls : k'.calls.filter (·.entry == entry) = k.calls.filter (·.entry == entry)

theorem untouched_check {entry own : EntryName} (k : Keyring) (hne : own ≠ entry) :
    Untouched entry k (k.check own).2 := by
  obtain ⟨more, hcalls, hown⟩ := calls_check k own
  refine ⟨(sameBut_check k own).secret? entry hne.symm, ?_⟩
  have hnone : more.filter (·.entry == entry) = [] := by
    rw [List.filter_eq_nil_iff]
    intro call hcall
    simpa [hown call hcall] using hne
  rw [hcalls, List.filter_append, hnone, List.append_nil]

/-- A check with an entry that has a secret is not without consequences. -/
theorem exists_touched_by_check (entry : EntryName) :
    ∃ k : Keyring, ¬ Untouched entry k (k.check entry).2 := by
  refine ⟨.make [(entry, "")] .working, ?_⟩
  rintro ⟨hsecret, -⟩
  have hmode : (make [(entry, "")] .working).mode = .working := rfl
  rw [(check_of_working hmode).2, if_pos rfl, Keyring.secret?, make, List.lookup_cons_self]
    at hsecret
  cases hsecret

end Keyring

/-! ## Checks and tokens -/

/-- **Which tokens a check leaves alone.** The check before a login leaves the entry of a profile
alone, whatever the keyring, unless the entry looks like that of the check. So no check at all comes
upon a profile if and only if its client does not end in the mark of checks. -/
theorem untouched_check_iff (stored : Profile) (other : String) :
    (∀ (p : Profile) (name : String),
      (p.checkEntry name = stored.tokenEntry other ↔ stored.LooksLikeCheck other p name) ∧
        ((∀ k : Keyring, Keyring.Untouched (stored.tokenEntry other) k
            (k.check (p.checkEntry name)).2) ↔ ¬ stored.LooksLikeCheck other p name)) ∧
      ((∀ (p : Profile) (name : String) (k : Keyring),
          Keyring.Untouched (stored.tokenEntry other) k (k.check (p.checkEntry name)).2) ↔
        ∀ id, stored.clientId ≠ id ++ "#check") := by
  have hpair : ∀ (p : Profile) (name : String),
      (∀ k : Keyring, Keyring.Untouched (stored.tokenEntry other) k
        (k.check (p.checkEntry name)).2) ↔ ¬ stored.LooksLikeCheck other p name := by
    intro p name
    rw [← Profile.checkEntry_eq_tokenEntry_iff]
    constructor
    · intro huntouched heq
      obtain ⟨k, hk⟩ := Keyring.exists_touched_by_check (stored.tokenEntry other)
      exact hk (heq ▸ huntouched k)
    · exact fun hne k => Keyring.untouched_check k hne
  refine ⟨fun p name => ⟨Profile.checkEntry_eq_tokenEntry_iff, hpair p name⟩, ?_⟩
  constructor
  · -- a login to the same profile, for what stands before the mark, would check with its entry
    intro huntouched id hid
    exact (hpair { stored with clientId := id } other).mp (huntouched _ _) ⟨id, hid, rfl⟩
  · intro hclient p name
    apply (hpair p name).mpr
    rintro ⟨id, hid, -⟩
    exact hclient id hid

/-- A request for another client, with half of what a login needs to know about endpoints. -/
def halfRequest (id : String) : Profile := ⟨id, none, some "https://idp/auth", none, []⟩

theorem firstLogin_marked : (firstLogin "a" "c#check").1 = .ok () ∧
    (firstLogin "a" "c#check").2.keyring.tokens ((clientOf "c#check").tokenEntry "a") =
      .ok ⟨"t1", some "bearer", none, none, none⟩ := by
  decide +kernel

/-- A login that goes on with a client whose name the old one continues with the mark of checks takes
away the tokens of its own profile, before it fails. -/
theorem tokens_lost_to_own_check :
    let first := (firstLogin "a" "c#check").2
    let second := (logIn straySurroundings "a" (halfRequest "c") fiveSeconds).run.run first
    (halfRequest "c").checkEntry "a" = (clientOf "c#check").tokenEntry "a" ∧
      ((loadTokens (some "a")).run.run first).1 = .ok ⟨"t1", some "bearer", none, none, none⟩ ∧
      second.1 = .error (.endpoints .missing) ∧
      ((loadTokens (some "a")).run.run second.2).1 =
        .error (.noTokens (.retrieved .noEntry)) := by
  have hc := config?_firstLogin firstLogin_marked.1
  have hmode : (firstLogin "a" "c#check").2.keyring.mode = .working :=
    (firstLogin_ends "a" "c#check").sameBeside.1
  have hstored : ((Config.empty.setProfile "a" (clientOf "c#check")).activate "a").profile? "a" =
      some (clientOf "c#check") := by simp
  have hshared : (halfRequest "c").checkEntry "a" = (clientOf "c#check").tokenEntry "a" := by
    decide
  have hrequested : (halfRequest "c").completed (((Config.empty.setProfile "a"
      (clientOf "c#check")).activate "a").profile? "a") = halfRequest "c" := by
    rw [hstored]
    rfl
  refine ⟨hshared, ?_, loadTokens_of_checkEntry_eq hc hmode hstored hrequested rfl rfl hshared
    straySurroundings fiveSeconds⟩
  rw [run_loadTokens hc, Option.getD_some, hstored]
  dsimp only
  rw [firstLogin_marked.2]
  rfl

end SchemaSdk.Account
