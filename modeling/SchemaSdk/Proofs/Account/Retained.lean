import SchemaSdk.Proofs.Account.Outcomes
import SchemaSdk.Proofs.Login.TokenText

/-!
# Tokens that were saved

A login that was saved can be loaded again: the profile is the active one, and its tokens are those
of the login, if the keyring gives back what it was given. They stay so as long as the configuration
and the entry of the profile do.
-/
namespace SchemaSdk.Account

open SchemaSdk.Login

/-! ## Keyrings that give back -/

namespace Keyring

variable {k k' : Keyring} {entry : EntryName} {secret : String} {t : Tokens}

/-- A keyring that gives back the secret that it took last for an entry. -/
def Faithful (k : Keyring) : Prop :=
  ∀ entry secret, (k.set entry secret).1 = .ok () →
    ((k.set entry secret).2.get entry).1 = .ok secret

theorem faithful_of_working (h : k.mode = .working) : k.Faithful := by
  intro entry secret _
  obtain ⟨items, mode, calls⟩ := k
  cases h
  simp [set, get, record, secret?]

/-- Tokens that were stored in a keyring that gives back are the tokens of their entry. -/
theorem tokens_of_store (hk : k.Faithful) (ht : t.Fits)
    (h : k.store entry t.text = (.ok (), k')) : k'.tokens entry = .ok t := by
  have hmode := (sameBut_set k entry t.text).mode
  rw [store] at h
  cases hnamed : k.named with
  | error e =>
    rw [hnamed] at h
    cases h
  | ok _ =>
    rw [hnamed] at h
    simp only [Prod.mk.injEq] at h
    obtain ⟨hset, rfl⟩ := h
    have hok : (k.set entry t.text).1 = .ok () := by
      cases hanswer : (k.set entry t.text).1 with
      | error e =>
        rw [hanswer] at hset
        cases hset
      | ok _ => rfl
    have hnamed' : (k.set entry t.text).2.named = k.named := by
      rw [named, named, hmode]
    simp only [tokens, hnamed', hnamed, hk entry t.text hok, Tokens.ofText?_text ht]

end Keyring

/-! ## Logins that were saved -/

variable {m m' : Machine} {name : String} {p : Profile} {t : Tokens}

/-- A machine that has tokens for its active profile. -/
structure Retains (m : Machine) (name : String) (t : Tokens) : Prop where
  config : ∃ c p, m.Keeps c ∧ c.active = name ∧ c.profile? name = some p ∧
    m.keyring.tokens (p.tokenEntry name) = .ok t

/-- A configuration is loaded before a login is saved. -/
theorem config?_of_saveLogin (h : (saveLogin name p t).run.run m = (.ok (), m')) :
    ∃ c, m.config? = some c := by
  rw [saveLogin] at h
  rcases run_bind_cases h with ⟨e, _, he⟩ | ⟨_, next, hstore, h⟩
  · cases he
  rcases run_bind_cases h with ⟨e, _, he⟩ | ⟨c, next', hload, _⟩
  · cases he
  rw [run_storeTokens] at hstore
  rw [run_loadConfig] at hload
  have hloaded : loaded m = loaded next := by
    rw [← (Prod.mk.inj hstore).2]
    rfl
  exact ⟨c, config?_eq_some_iff.mpr (hloaded.trans (Prod.mk.inj hload).1)⟩

theorem retains_of_saveLogin (hkeyring : m.keyring.Faithful) (ht : t.Fits)
    (h : (saveLogin name p t).run.run m = (.ok (), m')) : Retains m' name t := by
  obtain ⟨c, hc⟩ := config?_of_saveLogin h
  rw [run_saveLogin hc] at h
  rcases hstore : m.keyring.store (p.tokenEntry name) t.text with ⟨e | _, k⟩
  · rw [hstore] at h
    cases h
  · rw [hstore] at h
    obtain ⟨files, rfl, hsave⟩ := saveConfig_ends h
    have hdistinct := ((distinct_of_config? hc).setProfile name p).activate name
    exact ⟨(c.setProfile name p).activate name, p,
      ⟨_, hsave.read, Config.ofText?_text _ hdistinct⟩, rfl, by simp,
      Keyring.tokens_of_store hkeyring ht hstore⟩

/-- Tokens are loaded for the active profile, and by its name. -/
theorem Retains.loads (h : Retains m name t) :
    ((loadTokens none).run.run m).1 = .ok t ∧ ((loadTokens (some name)).run.run m).1 = .ok t := by
  obtain ⟨c, p, hkeeps, hactive, hp, htokens⟩ := h.config
  rw [run_loadTokens hkeeps.config?, run_loadTokens hkeeps.config?, Option.getD_none,
    Option.getD_some, hactive, hp]
  dsimp only
  rw [htokens]
  exact ⟨rfl, rfl⟩

/-- Tokens stay where the file of the configuration reads the same, and the keyring has the same
secrets. -/
theorem Retains.congr (h : Retains m name t) (hmode : m'.keyring.mode = m.keyring.mode)
    (hitems : m'.keyring.items = m.keyring.items)
    (hread : ∀ text, m.files.read m.cwd m.configPath = .ok text →
      m'.files.read m'.cwd m'.configPath = .ok text) : Retains m' name t := by
  obtain ⟨c, p, ⟨text, hfile, htext⟩, hactive, hp, htokens⟩ := h.config
  refine ⟨c, p, ⟨text, hread text hfile, htext⟩, hactive, hp, ?_⟩
  rw [Keyring.tokens_congr hmode, htokens]
  rw [Keyring.secret?, Keyring.secret?, hitems]

end SchemaSdk.Account
