import SchemaSdk.Proofs.Account.Outcomes
import SchemaSdk.Proofs.Login.Exchange

/-!
# Profiles apart from each other

An entry of the keyring is named by a profile and its client with an at sign between them. As long
as neither of two names continues the other one with an at sign, no entry is of both, and what is
done to one profile leaves the tokens of the other alone.
-/
namespace SchemaSdk.Account

open SchemaSdk.Login

/-! ## Entries of a name -/

/-- A name that starts with another one and an at sign. -/
def Continues (name longer : String) : Prop := name.toList ++ ['@'] <+: longer.toList

instance (name longer : String) : Decidable (Continues name longer) :=
  inferInstanceAs (Decidable (_ <+: _))

/-- An entry that a profile of a name can have. -/
def EntryOf (name : String) (entry : EntryName) : Prop :=
  ∃ rest, entry = ⟨Profile.keyringService, name ++ "@" ++ rest⟩

theorem entryOf_tokenEntry (p : Profile) (name : String) : EntryOf name (p.tokenEntry name) :=
  ⟨p.clientId, rfl⟩

theorem entryOf_checkEntry (p : Profile) (name : String) : EntryOf name (p.checkEntry name) :=
  ⟨p.clientId ++ "#check", by rw [Profile.checkEntry, String.append_assoc]⟩

/-- An entry of two names is one of a name that continues the other. -/
theorem continues_of_entryOf {p q : String} {entry : EntryName} (hp : EntryOf p entry)
    (hq : EntryOf q entry) : p = q ∨ Continues p q ∨ Continues q p := by
  obtain ⟨x, rfl⟩ := hp
  obtain ⟨y, hy⟩ := hq
  have hlist : p.toList ++ '@' :: x.toList = q.toList ++ '@' :: y.toList := by
    have htext := congrArg (fun e => e.username.toList) hy
    simpa using htext
  rcases List.append_eq_append_iff.mp hlist with ⟨rest, hq, hrest⟩ | ⟨rest, hp, hrest⟩
  · cases rest with
    | nil => exact .inl (String.toList_injective (by simpa using hq.symm))
    | cons c rest =>
      obtain ⟨rfl, _⟩ := List.cons.inj hrest
      exact .inr (.inl ⟨rest, by simp [hq]⟩)
  · cases rest with
    | nil => exact .inl (String.toList_injective (by simpa using hp))
    | cons c rest =>
      obtain ⟨rfl, _⟩ := List.cons.inj hrest
      exact .inr (.inr ⟨rest, by simp [hp]⟩)

/-! ## What operations leave of other entries -/

namespace Keyring

theorem sameBut_store (k : Keyring) (entry : EntryName) (secret : String) :
    SameBut entry k (k.store entry secret).2 := by
  rw [store]
  cases k.named with
  | error e => exact .refl entry k
  | ok _ => exact sameBut_set k entry secret

theorem sameBut_forget (k : Keyring) (entry : EntryName) :
    SameBut entry k (k.forget entry) := by
  rw [forget]
  cases k.named with
  | error e => exact .refl entry k
  | ok _ => exact sameBut_delete k entry

end Keyring

/-- A keyring of the same mode, with the same secrets but for the entries of a name. -/
def SameBeside (name : String) (k k' : Keyring) : Prop :=
  k'.mode = k.mode ∧ ∀ entry, ¬ EntryOf name entry → k'.secret? entry = k.secret? entry

variable {m m' : Machine} {c : Config} {name other : String} {p stored : Profile}

theorem Keyring.SameBut.beside {k k' : Keyring} {entry : EntryName}
    (h : Keyring.SameBut entry k k') (hentry : EntryOf name entry) : SameBeside name k k' := by
  refine ⟨h.mode, ?_⟩
  intro e he
  apply h.secret?
  rintro rfl
  exact he hentry

theorem SameBeside.trans {k k' k'' : Keyring} (h : SameBeside name k k')
    (h' : SameBeside name k' k'') : SameBeside name k k'' :=
  ⟨h'.1.trans h.1, fun e he => (h'.2 e he).trans (h.2 e he)⟩

/-- A login touches no entries but those of its profile, whether it succeeds or not. -/
theorem LogInEnds.sameBeside {answer : Except AccountError Unit}
    (h : LogInEnds m c name p answer m') : SameBeside name m.keyring m'.keyring := by
  have hcheck := (Keyring.sameBut_check m.keyring (p.checkEntry name)).beside
    (entryOf_checkEntry p name)
  have hstore := fun secret =>
    (Keyring.sameBut_store (m.keyring.check (p.checkEntry name)).2 (p.tokenEntry name)
      secret).beside (entryOf_tokenEntry p name)
  cases h with
  | failed e keyring runs he hkeyring =>
    rcases hkeyring with rfl | rfl | ⟨secret, e', hkeyring⟩
    · exact ⟨rfl, fun _ _ => rfl⟩
    · exact hcheck
    · have h' := hstore secret
      rw [hkeyring] at h'
      exact hcheck.trans h'
  | stored t answer files keyring runs hid hendpoints hkeyring hsave =>
    have h' := hstore t.text
    rw [hkeyring] at h'
    exact hcheck.trans h'

/-- A logout touches no entries but those of its profile. -/
theorem LogOutEnds.sameBeside {answer : Except AccountError String}
    (h : LogOutEnds m c name answer m') : SameBeside name m.keyring m'.keyring := by
  cases h with
  | noProfile hp => exact ⟨rfl, fun _ _ => rfl⟩
  | removed p hp answer files hsave =>
    exact (Keyring.sameBut_forget m.keyring (p.tokenEntry name)).beside
      (entryOf_tokenEntry p name)

/-! ## What operations leave of other profiles -/

theorem keeps_of_profile? (hc : m.config? = some c) (hstored : c.profile? other = some stored) :
    m.Keeps c := by
  rcases keeps_of_config? hc with hkeeps | ⟨_, rfl⟩
  · exact hkeeps
  · cases hstored

theorem LogInEnds.profile? {answer : Except AccountError Unit}
    (h : LogInEnds m c name p answer m') (hwhole : m.Unbroken answer) (hc : m.config? = some c)
    (hstored : c.profile? other = some stored) (hne : other ≠ name) :
    ∃ c', m'.config? = some c' ∧ c'.profile? other = some stored := by
  cases h with
  | failed e keyring runs he hkeyring => exact ⟨c, hc, hstored⟩
  | stored t answer files keyring runs hid hendpoints hkeyring hsave =>
    have hdistinct := ((distinct_of_config? hc).setProfile name p).activate name
    rcases hsave.keeps hwhole (keeps_of_profile? hc hstored) hdistinct _ _ with hold | hnew
    · exact ⟨c, hold.config?, hstored⟩
    · exact ⟨_, hnew.config?, by simp [hne, hstored]⟩

theorem LogOutEnds.profile? {answer : Except AccountError String}
    (h : LogOutEnds m c name answer m') (hwhole : m.Unbroken answer) (hc : m.config? = some c)
    (hstored : c.profile? other = some stored) (hne : other ≠ name) :
    ∃ c', m'.config? = some c' ∧ c'.profile? other = some stored := by
  cases h with
  | noProfile hp => exact ⟨c, hc, hstored⟩
  | removed p hp answer files hsave =>
    have hdistinct := (distinct_of_config? hc).removeProfile name
    rcases hsave.keeps hwhole.of_map (keeps_of_profile? hc hstored) hdistinct _ _ with hold | hnew
    · exact ⟨c, hold.config?, hstored⟩
    · exact ⟨_, hnew.config?, by simp [hne, hstored]⟩

/-! ## Isolation -/

/-- The tokens of a profile are the same on machines that agree on the profile and its entry. -/
theorem answer_loadTokens_congr {c' : Config} (hc : m.config? = some c)
    (hstored : c.profile? other = some stored) (hc' : m'.config? = some c')
    (hstored' : c'.profile? other = some stored)
    (htokens : m'.keyring.tokens (stored.tokenEntry other) =
      m.keyring.tokens (stored.tokenEntry other)) :
    ((loadTokens (some other)).run.run m').1 = ((loadTokens (some other)).run.run m).1 := by
  rw [run_loadTokens hc, run_loadTokens hc', Option.getD_some, Option.getD_some, hstored,
    hstored']
  dsimp only
  rw [htokens]

/-- Where neither of two names continues the other one with an at sign, neither a login to one of
the profiles, whether it succeeds or fails, nor a logout of it changes the tokens of the other, as
long as the system does not cut off the configuration that both are in. -/
theorem loadTokens_beside (hc : m.config? = some c) (hstored : c.profile? other = some stored)
    (hne : other ≠ name) (hcontinues : ¬ Continues name other)
    (hcontinued : ¬ Continues other name) (s : Surroundings) (requested : Profile)
    (o : LoginOptions) :
    (m.Unbroken ((logIn s name requested o).run.run m).1 →
        ((loadTokens (some other)).run.run ((logIn s name requested o).run.run m).2).1 =
          ((loadTokens (some other)).run.run m).1) ∧
      ∀ named : Option String, named.getD c.active = name →
        m.Unbroken ((logOut named).run.run m).1 →
          ((loadTokens (some other)).run.run ((logOut named).run.run m).2).1 =
            ((loadTokens (some other)).run.run m).1 := by
  have hentry : ¬ EntryOf name (stored.tokenEntry other) := by
    intro hname
    rcases continues_of_entryOf hname (entryOf_tokenEntry stored other) with h | h | h
    · exact hne h.symm
    · exact hcontinues h
    · exact hcontinued h
  constructor
  · intro hwhole
    have hends := logIn_ends hc s name requested o
    obtain ⟨c', hc', hstored'⟩ := hends.profile? hwhole hc hstored hne
    obtain ⟨hmode, hsecret⟩ := hends.sameBeside
    exact answer_loadTokens_congr hc hstored hc' hstored'
      (Keyring.tokens_congr hmode (hsecret _ hentry))
  · rintro named rfl hwhole
    have hends := logOut_ends hc named
    obtain ⟨c', hc', hstored'⟩ := hends.profile? hwhole hc hstored hne
    obtain ⟨hmode, hsecret⟩ := hends.sameBeside
    exact answer_loadTokens_congr hc hstored hc' hstored'
      (Keyring.tokens_congr hmode (hsecret _ hentry))

/-! ## Entries of two profiles -/

/-- A login that fails for want of endpoints has only checked the keyring. -/
theorem run_logIn_of_endpoints_error (hc : m.config? = some c) (hmode : m.keyring.mode = .working)
    {requested p : Profile} {e : EndpointError} (hp : requested.completed (c.profile? name) = p)
    (hid : p.clientId.isEmpty = false) (hendpoints : p.endpoints = .error e) (s : Surroundings)
    (o : LoginOptions) : (logIn s name requested o).run.run m =
      (.error (.endpoints e), { m with keyring := (m.keyring.check (p.checkEntry name)).2 }) := by
  rw [run_logIn hc, hp]
  dsimp only
  rw [hid, (Keyring.check_of_working hmode).1, hendpoints]
  rfl

theorem Keyring.tokens_of_none {k : Keyring} {entry : EntryName} (hmode : k.mode = .working)
    (hnone : k.secret? entry = none) : k.tokens entry = .error (.retrieved .noEntry) := by
  have hget : (k.get entry).1 = .error .noEntry := by
    rw [secret?] at hnone
    simp [get, record, secret?, hmode, hnone]
  rw [tokens, named_of_working hmode, hget]

/-- If the entry that a login checks the keyring with holds the tokens of another profile, they are
lost, even if the login goes on to fail. -/
theorem loadTokens_of_checkEntry_eq (hc : m.config? = some c) (hmode : m.keyring.mode = .working)
    (hstored : c.profile? other = some stored) {requested p : Profile} {e : EndpointError}
    (hp : requested.completed (c.profile? name) = p) (hid : p.clientId.isEmpty = false)
    (hendpoints : p.endpoints = .error e) (hshared : p.checkEntry name = stored.tokenEntry other)
    (s : Surroundings) (o : LoginOptions) :
    ((logIn s name requested o).run.run m).1 = .error (.endpoints e) ∧
      ((loadTokens (some other)).run.run ((logIn s name requested o).run.run m).2).1 =
        .error (.noTokens (.retrieved .noEntry)) := by
  rw [run_logIn_of_endpoints_error hc hmode hp hid hendpoints]
  refine ⟨rfl, ?_⟩
  have hc' : Machine.config? { m with keyring := (m.keyring.check (p.checkEntry name)).2 } =
    some c := hc
  have hmode' := (Keyring.sameBut_check m.keyring (p.checkEntry name)).mode
  have hlost : (m.keyring.check (p.checkEntry name)).2.secret? (stored.tokenEntry other) =
      none := by
    rw [(Keyring.check_of_working hmode).2, if_pos hshared.symm]
  rw [run_loadTokens hc', Option.getD_some, hstored]
  dsimp only
  rw [Keyring.tokens_of_none (hmode'.trans hmode) hlost]
  rfl

/-! ### Names with an at sign -/

/-- A machine without files, with a keyring that is empty and works. -/
def newMachine : Machine := ⟨.empty, [], "/conf", .make [] .working, []⟩

theorem config?_newMachine : newMachine.config? = some Config.empty := by decide

theorem reliable_newMachine : newMachine.files.Reliable := fun _ => nofun

/-- A profile of a client with both endpoints given. -/
def clientOf (id : String) : Profile :=
  ⟨id, none, some "https://idp/auth", some "https://idp/token", []⟩

def fiveSeconds : LoginOptions := ⟨"127.0.0.1:3000", 5000⟩

/-- The first login on a new machine. -/
def firstLogin (name id : String) : Except AccountError Unit × Machine :=
  (logIn straySurroundings name (clientOf id) fiveSeconds).run.run newMachine

theorem firstLogin_ends (name id : String) : LogInEnds newMachine Config.empty name (clientOf id)
    (firstLogin name id).1 (firstLogin name id).2 :=
  logIn_ends config?_newMachine straySurroundings name (clientOf id) fiveSeconds

theorem config?_firstLogin {name id : String} (h : (firstLogin name id).1 = .ok ()) :
    (firstLogin name id).2.config? =
      some ((Config.empty.setProfile name (clientOf id)).activate name) := by
  have hends := firstLogin_ends name id
  rw [h] at hends
  exact hends.config?_of_ok config?_newMachine

/-- Names may have the same start, and at signs of their own. -/
theorem loadTokens_beside_me :
    let first := (firstLogin "me@work" "sdkgen").2
    let c := (Config.empty.setProfile "me@work" (clientOf "sdkgen")).activate "me@work"
    first.config? = some c ∧ c.profile? "me@work" = some (clientOf "sdkgen") ∧
      "me@work" ≠ "me@home" ∧ ¬ Continues "me@home" "me@work" ∧ ¬ Continues "me@work" "me@home" ∧
      first.files.Reliable ∧ ((loadTokens (some "me@work")).run.run ((logIn straySurroundings "me@home"
          (clientOf "sdkgen") fiveSeconds).run.run first).2).1 =
        ((loadTokens (some "me@work")).run.run first).1 := by
  intro first c
  have hc : first.config? = some c := config?_firstLogin (by decide +kernel)
  have hstored : c.profile? "me@work" = some (clientOf "sdkgen") := by simp [c]
  have hne : "me@work" ≠ "me@home" := by decide
  have hcontinues : ¬ Continues "me@home" "me@work" := by decide
  have hcontinued : ¬ Continues "me@work" "me@home" := by decide
  have hreliable : first.files.Reliable :=
    (firstLogin_ends "me@work" "sdkgen").reliable reliable_newMachine
  exact ⟨hc, hstored, hne, hcontinues, hcontinued, hreliable,
    (loadTokens_beside hc hstored hne hcontinues hcontinued straySurroundings
      (clientOf "sdkgen") fiveSeconds).1 (.inl hreliable)⟩

/-- A profile of a client without endpoints. -/
def bareClient (id : String) : Profile := ⟨id, none, none, none, []⟩

theorem firstLogin_checkLike :
    (firstLogin "a@b" "c#check").1 = .ok () ∧ (firstLogin "a@b" "c#check").2.keyring.tokens
      ((clientOf "c#check").tokenEntry "a@b") =
        .ok ⟨"t1", some "bearer", none, none, none⟩ := by
  decide +kernel

/-- The client of one profile may look like the check of another: then a login to the other, which
fails for want of endpoints, takes the tokens of the first away. -/
theorem loadTokens_lost_to_check :
    let first := (firstLogin "a@b" "c#check").2
    let second := (logIn straySurroundings "a" (bareClient "b@c") fiveSeconds).run.run first
    ((loadTokens (some "a@b")).run.run first).1 =
        .ok ⟨"t1", some "bearer", none, none, none⟩ ∧
      second.1 = .error (.endpoints .missing) ∧
      ((loadTokens (some "a@b")).run.run second.2).1 =
        .error (.noTokens (.retrieved .noEntry)) := by
  obtain ⟨hok, htokens⟩ := firstLogin_checkLike
  have hc := config?_firstLogin hok
  have hmode : (firstLogin "a@b" "c#check").2.keyring.mode = .working :=
    (firstLogin_ends "a@b" "c#check").sameBeside.1
  have hstored : ((Config.empty.setProfile "a@b" (clientOf "c#check")).activate "a@b").profile?
      "a@b" = some (clientOf "c#check") := by simp
  have hshared : (bareClient "b@c").checkEntry "a" = (clientOf "c#check").tokenEntry "a@b" := by
    decide
  have hrequested : (bareClient "b@c").completed (((Config.empty.setProfile "a@b"
      (clientOf "c#check")).activate "a@b").profile? "a") = bareClient "b@c" := rfl
  refine ⟨?_, loadTokens_of_checkEntry_eq hc hmode hstored hrequested rfl rfl hshared
    straySurroundings fiveSeconds⟩
  rw [run_loadTokens hc, Option.getD_some, hstored]
  dsimp only
  rw [htokens]
  rfl

end SchemaSdk.Account
