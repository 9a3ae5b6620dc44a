import SchemaSdk.Proofs.Account.Isolation
import SchemaSdk.Proofs.Account.Retained

/-!
# Logins that are saved in part

A login is saved in two places, first in the keyring and then on disk, and what has been done is not
taken back. So a login that could not be saved on disk has its tokens in the keyring all the same.
The file of the configuration is as it was if it could not be opened, and has the beginning of the
new text or all of it if the system let it down after that.
-/
namespace SchemaSdk.Account

open SchemaSdk.Login
open FileSystem (SameBut begun placeOf)

/-! ## Storing -/

namespace Keyring

variable {k k' : Keyring} {entry : EntryName} {secret : String}

/-- A secret that could not be stored has changed nothing. -/
theorem secret?_store_of_error {e : EntryError} (h : k.store entry secret = (.error e, k')) :
    k'.secret? = k.secret? := by
  rw [store] at h
  cases hnamed : k.named with
  | error _ =>
    rw [hnamed] at h
    cases h
    rfl
  | ok _ =>
    rw [hnamed] at h
    obtain ⟨hset, rfl⟩ := Prod.mk.inj h
    cases hanswer : (k.set entry secret).1 with
    | error _ => exact secret?_set_of_error hanswer
    | ok _ =>
      rw [hanswer] at hset
      cases hset

end Keyring

/-! ## Where saving a login fails -/

variable {m m' : Machine} {name : String} {p : Profile} {t : Tokens} {e : AccountError}

/-- How saving a login can fail, and what it leaves then. -/
inductive SaveLoginFails (m : Machine) (name : String) (p : Profile) (t : Tokens) :
    AccountError → Machine → Prop
  /-- The tokens cannot be stored. -/
  | storing (e : EntryError) (keyring : Keyring)
    (hkeyring : m.keyring.store (p.tokenEntry name) t.text = (.error e, keyring)) :
    SaveLoginFails m name p t (.notStored e) { m with keyring := keyring }
  /-- The tokens are stored, but there is no configuration to put the profile into. -/
  | loading (e : AccountError) (keyring : Keyring)
    (hkeyring : m.keyring.store (p.tokenEntry name) t.text = (.ok (), keyring))
    (hloaded : loaded m = .error e) :
    SaveLoginFails m name p t e { m with keyring := keyring }
  /-- The tokens are stored, but the configuration with the profile cannot be saved. -/
  | saving (c : Config) (e : AccountError) (files : FileSystem) (keyring : Keyring)
    (hkeyring : m.keyring.store (p.tokenEntry name) t.text = (.ok (), keyring))
    (hc : m.config? = some c)
    (hsave : SaveEnds m.files m.cwd m.configPath ((c.setProfile name p).activate name) (.error e)
      files) :
    SaveLoginFails m name p t e { m with files := files, keyring := keyring }

theorem saveLoginFails_of_error (h : (saveLogin name p t).run.run m = (.error e, m')) :
    SaveLoginFails m name p t e m' := by
  rw [saveLogin, run_bind, run_storeTokens] at h
  rcases hstore : m.keyring.store (p.tokenEntry name) t.text with ⟨e' | _, k⟩
  · rw [hstore] at h
    cases h
    exact .storing e' k hstore
  · rw [hstore] at h
    dsimp only [Except.mapError] at h
    rw [run_bind, run_loadConfig] at h
    have hsame : loaded { m with keyring := k } = loaded m := rfl
    rw [hsame] at h
    cases hloaded : loaded m with
    | error e' =>
      rw [hloaded] at h
      cases h
      exact .loading e k hstore hloaded
    | ok c =>
      rw [hloaded] at h
      obtain ⟨files, rfl, hends⟩ := saveConfig_ends h
      exact .saving c e files k hstore (config?_eq_some_iff.mpr hloaded) hends

namespace SaveLoginFails

/-- No file has another text but that of the configuration. -/
theorem sameFiles (h : SaveLoginFails m name p t e m') :
    SameBut [placeOf m.cwd m.configPath] m.files m'.files := by
  cases h with
  | storing => exact .refl _ _
  | loading => exact .refl _ _
  | saving c e files keyring hkeyring hc hsave => exact hsave.sameBut

/-- On a reliable system, the file of the configuration has its text, too, and reads as before. -/
theorem unchanged_of_reliable (h : SaveLoginFails m name p t e m') (hfiles : m.files.Reliable) :
    SameBut [] m.files m'.files ∧ ∀ text, m'.files.read m.cwd m.configPath = .ok text ↔
      m.files.read m.cwd m.configPath = .ok text := by
  cases h with
  | storing => exact ⟨.refl _ _, fun _ => Iff.rfl⟩
  | loading => exact ⟨.refl _ _, fun _ => Iff.rfl⟩
  | saving c e files keyring hkeyring hc hsave => exact hsave.unchanged_of_reliable hfiles

/-- The keyring is the one that storing the tokens has left: nothing is taken back. -/
theorem keyring_eq (h : SaveLoginFails m name p t e m') :
    m'.keyring = (m.keyring.store (p.tokenEntry name) t.text).2 := by
  cases h with
  | storing e' keyring hkeyring => rw [hkeyring]
  | loading e keyring hkeyring hloaded => rw [hkeyring]
  | saving c e files keyring hkeyring hc hsave => rw [hkeyring]

/-- No entry but that of the profile has changed. -/
theorem sameEntries (h : SaveLoginFails m name p t e m') :
    Keyring.SameBut (p.tokenEntry name) m.keyring m'.keyring := by
  rw [h.keyring_eq]
  exact Keyring.sameBut_store m.keyring (p.tokenEntry name) t.text

/-- Unless storing the tokens is what failed, they are stored. -/
theorem tokens (h : SaveLoginFails m name p t e m') (hstored : ∀ e', e ≠ .notStored e')
    (hkeyring : m.keyring.Faithful) (ht : t.Fits) :
    m'.keyring.tokens (p.tokenEntry name) = .ok t := by
  cases h with
  | storing e' => exact absurd rfl (hstored e')
  | loading e keyring hstore => exact Keyring.tokens_of_store hkeyring ht hstore
  | saving c e files keyring hstore => exact Keyring.tokens_of_store hkeyring ht hstore

end SaveLoginFails

/-- **A login that fails to be saved takes nothing back.** No other file has another text, and no
other entry of the keyring has changed; on a reliable system the file of the configuration has its
text as well, and reads as before. If the tokens could not be stored, all is as it was. Otherwise
they are stored for good: the keyring gives them, if it gives back what it takes. The configuration
could not be loaded then, or the new one could not be saved: its file was not opened, and no text
has changed, or it has the beginning of the new text, since the writing was broken off, or all of
it, since it could not be made private. -/
theorem saveLogin_of_error (h : (saveLogin name p t).run.run m = (.error e, m')) :
    SameBut [placeOf m.cwd m.configPath] m.files m'.files ∧
      (m.files.Reliable → SameBut [] m.files m'.files ∧ ∀ text,
        m'.files.read m.cwd m.configPath = .ok text ↔
          m.files.read m.cwd m.configPath = .ok text) ∧
      Keyring.SameBut (p.tokenEntry name) m.keyring m'.keyring ∧
      ((∃ e', e = .notStored e') ∧ m'.keyring.secret? = m.keyring.secret? ∧
          m'.files = m.files ∨
        m.keyring.store (p.tokenEntry name) t.text = (.ok (), m'.keyring) ∧
          (m.keyring.Faithful → t.Fits → m'.keyring.tokens (p.tokenEntry name) = .ok t) ∧
          (loaded m = .error e ∧ m'.files = m.files ∨
            ∃ c, m.config? = some c ∧
              let new := ((c.setProfile name p).activate name).text
              let found := m'.files.read m.cwd m.configPath
              e.isOfSaving = true ∧ SameBut [] m.files m'.files ∨
                (∃ cause n, e = .unwritable m.configPath cause ∧ found = .ok (begun new n)) ∨
                ∃ cause, e = .unrestricted m.configPath cause ∧ found = .ok new)) := by
  have hfails := saveLoginFails_of_error h
  refine ⟨hfails.sameFiles, hfails.unchanged_of_reliable, hfails.sameEntries, ?_⟩
  cases hfails with
  | storing e' keyring hkeyring =>
    exact .inl ⟨⟨e', rfl⟩, Keyring.secret?_store_of_error hkeyring, rfl⟩
  | loading e keyring hkeyring hloaded =>
    exact .inr ⟨hkeyring, fun hk ht => Keyring.tokens_of_store hk ht hkeyring,
      .inl ⟨hloaded, rfl⟩⟩
  | saving c e files keyring hkeyring hc hsave =>
    refine .inr ⟨hkeyring, fun hk ht => Keyring.tokens_of_store hk ht hkeyring,
      .inr ⟨c, hc, ?_⟩⟩
    cases hsave with
    | unopened _ _ he hsame => exact .inl ⟨he, hsame⟩
    | broken cause n _ _ _ hread => exact .inr (.inl ⟨cause, n, rfl, hread⟩)
    | unrestricted cause _ _ _ hread => exact .inr (.inr ⟨cause, rfl, hread⟩)

/-! ### Tokens without a profile -/

/-- Tokens of an access token and nothing more. -/
def bareTokens (accessToken : String) : Tokens := ⟨accessToken, none, none, none, none⟩

theorem bareTokens_fits (accessToken : String) : (bareTokens accessToken).Fits := by
  rintro n ⟨⟩

/-- A machine with a file where the directory of the configuration should be, and with tokens of an
earlier login. -/
def blockedMachine : Machine :=
  { newMachine with
    files := .ofNodes [(["conf"], .file "" privateFile)]
    keyring := .make [((clientOf "c").tokenEntry "p", (bareTokens "t0").text)] .working }

/-- Tokens of an earlier login give way to those of one that is not saved on disk. All files have the
texts that they had, and there is none of the configuration as before. -/
theorem saveLogin_of_error_blocked : ∃ m',
    (saveLogin "p" (clientOf "c") (bareTokens "t1")).run.run blockedMachine =
      (.error (.unwritable "/conf/config.toml" .notDirectory), m') ∧
    blockedMachine.keyring.tokens ((clientOf "c").tokenEntry "p") = .ok (bareTokens "t0") ∧
    m'.keyring.tokens ((clientOf "c").tokenEntry "p") = .ok (bareTokens "t1") ∧
    SameBut [] blockedMachine.files m'.files ∧
    ∀ text, m'.files.read blockedMachine.cwd blockedMachine.configPath ≠ .ok text := by
  have hnone : blockedMachine.files.read blockedMachine.cwd blockedMachine.configPath =
      .error .notDirectory := by
    decide +kernel
  have herror : ((saveLogin "p" (clientOf "c") (bareTokens "t1")).run.run blockedMachine).1 =
      .error (.unwritable "/conf/config.toml" .notDirectory) := by
    decide +kernel
  have hfaithful : blockedMachine.keyring.Faithful := Keyring.faithful_of_working rfl
  have hreliable : blockedMachine.files.Reliable := fun _ => nofun
  rcases h : (saveLogin "p" (clientOf "c") (bareTokens "t1")).run.run blockedMachine
    with ⟨answer, m'⟩
  rw [h] at herror
  obtain rfl : answer = _ := herror
  obtain ⟨-, hsame, -, ⟨⟨e', he'⟩, -⟩ | ⟨-, htokens, -⟩⟩ := saveLogin_of_error h
  · cases he'
  · obtain ⟨hfiles, hread⟩ := hsame hreliable
    refine ⟨m', rfl, by decide +kernel, htokens hfaithful (bareTokens_fits "t1"), hfiles, ?_⟩
    intro text hfound
    have hbefore := (hread text).mp hfound
    rw [hnone] at hbefore
    cases hbefore

/-- A machine with a text in the file of the configuration, and with failures to come. -/
def machineWith (text : String) (failures : List (Option Failure)) : Machine :=
  { newMachine with
    files := ⟨[(["conf"], .directory privateDirectory),
      (["conf", "config.toml"], .file text privateFile)], failures⟩ }

/-- Saves the first login of a profile. -/
def savedOn (m : Machine) : Except AccountError Unit × Machine :=
  (saveLogin "p" (clientOf "c") (bareTokens "t1")).run.run m

theorem tokens_savedOn (h : (savedOn m).1 = .error e) (hstored : ∀ e', e ≠ .notStored e')
    (hkeyring : m.keyring.Faithful) :
    (savedOn m).2.keyring.tokens ((clientOf "c").tokenEntry "p") = .ok (bareTokens "t1") :=
  (saveLoginFails_of_error (Prod.ext h rfl)).tokens hstored hkeyring (bareTokens_fits "t1")

def noSpace : OsError := .system 28 "No space left on device"

def notPermitted : OsError := .system 1 "Operation not permitted"

/-- Where the configuration is malformed, a login is not saved, and its tokens are. If the disk is
full once the file of the configuration is open, nothing is left in it; if its permissions cannot be
set, it has another text than before. In either case saving the login has failed. -/
theorem tokens_left_by_unsaved_login :
    let garbled := machineWith "not toml" []
    let full := machineWith Config.empty.text [none, none, some ⟨noSpace, 0⟩]
    let foreign := machineWith Config.empty.text [none, none, none, some ⟨notPermitted, 0⟩]
    let file := "/conf/config.toml"
    let entry := (clientOf "c").tokenEntry "p"
    (garbled.keyring.secret? entry = none ∧
      (savedOn garbled).1 = .error (.malformed file) ∧
      (savedOn garbled).2.files = garbled.files ∧
      (savedOn garbled).2.keyring.tokens entry = .ok (bareTokens "t1")) ∧
    (full.files.read [] file = .ok Config.empty.text ∧
      (savedOn full).1 = .error (.unwritable file noSpace) ∧
      (savedOn full).2.files.read [] file = .ok "" ∧ "" ≠ Config.empty.text ∧
      (savedOn full).2.keyring.tokens entry = .ok (bareTokens "t1")) ∧
    (foreign.files.read [] file = .ok Config.empty.text ∧
      (savedOn foreign).1 = .error (.unrestricted file notPermitted) ∧
      (savedOn foreign).2.files.read [] file ≠ .ok Config.empty.text ∧
      (savedOn foreign).2.keyring.tokens entry = .ok (bareTokens "t1")) := by
  intro garbled full foreign file entry
  have hkeyring : newMachine.keyring.Faithful := Keyring.faithful_of_working rfl
  have hmalformed : garbled.keyring.secret? entry = none ∧
      (savedOn garbled).1 = .error (.malformed file) ∧
      (savedOn garbled).2.files = garbled.files := by
    decide +kernel
  have hunwritable : full.files.read [] file = .ok Config.empty.text ∧
      (savedOn full).1 = .error (.unwritable file noSpace) ∧
      (savedOn full).2.files.read [] file = .ok "" ∧ "" ≠ Config.empty.text := by
    decide +kernel
  have hunrestricted : foreign.files.read [] file = .ok Config.empty.text ∧
      (savedOn foreign).1 = .error (.unrestricted file notPermitted) ∧
      (savedOn foreign).2.files.read [] file ≠ .ok Config.empty.text := by
    decide +kernel
  obtain ⟨hnone, hanswer, hfiles⟩ := hmalformed
  obtain ⟨hbefore, hanswer', hempty, hother⟩ := hunwritable
  obtain ⟨hbefore', hanswer'', hchanged⟩ := hunrestricted
  exact ⟨⟨hnone, hanswer, hfiles, tokens_savedOn hanswer nofun hkeyring⟩,
    ⟨hbefore, hanswer', hempty, hother, tokens_savedOn hanswer' nofun hkeyring⟩,
    ⟨hbefore', hanswer'', hchanged, tokens_savedOn hanswer'' nofun hkeyring⟩⟩

end SchemaSdk.Account
