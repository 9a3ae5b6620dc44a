import SchemaSdk.Proofs.Account.Isolation

/-!
# Logins that fail before they are saved

Whatever keeps a login from obtaining tokens, it leaves all files as they are. Of the keyring it has
used one entry at most, that of its check, which is gone again if the keyring let it go.
-/
namespace SchemaSdk.Account

open SchemaSdk.Login

/-! ## What a check leaves -/

namespace Keyring

variable {k : Keyring} {entry : EntryName}

/-- What a check is answered when it removes its secret. It gets so far if it could write it. -/
def removal? (k : Keyring) (entry : EntryName) : Option (Except KeyringError Unit) :=
  match k.named with
  | .error _ => none
  | .ok () =>
    match k.set entry checkSecret with
    | (.error _, _) => none
    | (.ok (), written) => some ((written.get entry).2.delete entry).1

/-- What a check with an entry may do to a keyring: nothing to other entries, and nothing at all
unless it got as far as to remove the secret; where this was answered well, the entry is gone. -/
structure Checked (entry : EntryName) (k k' : Keyring) : Prop where
  sameBut : SameBut entry k k'
  removed : k.removal? entry = some (.ok ()) → k'.secret? entry = none
  unwritten : k.removal? entry = none → k'.secret? entry = k.secret? entry

theorem secret?_delete_of_ok (h : (k.delete entry).1 = .ok ()) :
    (k.delete entry).2.secret? entry = none := by
  rcases delete_cases k entry with ⟨e, hdelete⟩ | hdelete
  · rw [hdelete] at h
    cases h
  · rw [hdelete, Keyring.secret?, without, lookup_filter_ne, if_pos rfl]

/-- A check gets as far as to remove its secret, or it changes the secret of no entry. -/
theorem check_cases (k : Keyring) (entry : EntryName) :
    (∃ answer, k.removal? entry = some answer ∧
        (answer = .ok () → (k.check entry).2.secret? entry = none)) ∨
      k.removal? entry = none ∧ (k.check entry).2.secret? entry = k.secret? entry := by
  rw [removal?, check]
  cases k.named with
  | error e => exact .inr ⟨rfl, rfl⟩
  | ok _ =>
    dsimp only
    rcases hset : k.set entry checkSecret with ⟨e | _, written⟩
    · have hunwritten := secret?_set_of_error (congrArg Prod.fst hset)
      rw [hset] at hunwritten
      exact .inr ⟨rfl, congrFun hunwritten entry⟩
    · exact .inl ⟨_, rfl, secret?_delete_of_ok⟩

theorem checked_check (k : Keyring) (entry : EntryName) : Checked entry k (k.check entry).2 := by
  rcases check_cases k entry with ⟨answer, hremoval, hgone⟩ | ⟨hremoval, hsame⟩
  · refine ⟨sameBut_check k entry, fun h => hgone ?_, fun h => ?_⟩
    · exact Option.some.inj (hremoval.symm.trans h)
    · rw [hremoval] at h
      cases h
  · refine ⟨sameBut_check k entry, fun h => ?_, fun _ => hsame⟩
    rw [hremoval] at h
    cases h

end Keyring

/-! ## What a login leaves that obtains no tokens -/

/-- Whether an error keeps a login from obtaining tokens: there is no configuration, no client, no
keyring that works or no endpoint, or the provider grants nothing. -/
def AccountError.isBeforeSaving : AccountError → Bool
  | .unreadable _ _ => true
  | .malformed _ => true
  | .noClientId _ => true
  | .noKeyring => true
  | .endpoints _ => true
  | .login _ => true
  | _ => false

variable {m m' : Machine} {e : AccountError}

theorem isBeforeSaving_of_loaded (h : loaded m = .error e) : e.isBeforeSaving = true := by
  rw [loaded] at h
  split at h
  · cases h
  · split at h
    · cases h
      rfl
    · split at h
      · cases h
      · cases h
        rfl

/-- **A login that obtains no tokens leaves all as it was, but for the entry of its check.** Nothing
is saved, and no file has changed. If the keyring was called at all, then for a check: no other entry
has changed, and the entry of the check is gone if its removal was answered well. -/
theorem logIn_of_obtainTokens_error {s : Surroundings} {name : String} {requested : Profile}
    {o : LoginOptions} (h : (obtainTokens s name requested o).run.run m = (.error e, m')) :
    logIn s name requested o =
        (obtainTokens s name requested o >>= fun (p, t) => saveLogin name p t) ∧
      (logIn s name requested o).run.run m = (.error e, m') ∧ e.isBeforeSaving = true ∧
      m'.files = m.files ∧ m'.cwd = m.cwd ∧ m'.configDirectory = m.configDirectory ∧
      (m' = m ∨ ∃ c, m.config? = some c ∧
        let own := (requested.completed (c.profile? name)).checkEntry name
        m'.keyring = (m.keyring.check own).2 ∧ Keyring.Checked own m.keyring m'.keyring) := by
  refine ⟨logIn_eq s name requested o, by rw [logIn_eq, run_bind, h], ?_⟩
  cases hloaded : loaded m with
  | error e' =>
    rw [obtainTokens, run_bind, run_loadConfig, hloaded] at h
    cases h
    exact ⟨isBeforeSaving_of_loaded hloaded, rfl, rfl, rfl, .inl rfl⟩
  | ok c =>
    have hc := config?_eq_some_iff.mpr hloaded
    rw [run_obtainTokens hc] at h
    dsimp only at h
    have hchecked := Keyring.checked_check m.keyring
      ((requested.completed (c.profile? name)).checkEntry name)
    split at h
    · cases h
      exact ⟨rfl, rfl, rfl, rfl, .inl rfl⟩
    · split at h
      · cases h
        exact ⟨rfl, rfl, rfl, rfl, .inr ⟨c, hc, rfl, hchecked⟩⟩
      · split at h
        · cases h
          exact ⟨rfl, rfl, rfl, rfl, .inr ⟨c, hc, rfl, hchecked⟩⟩
        · next endpoints _ =>
          generalize LoginConfig.run ⟨endpoints, _, _, o.callbackAddress, o.milliseconds⟩ s = run
            at h
          cases hresult : run.result with
          | ok t =>
            rw [hresult] at h
            cases h
          | error e' =>
            rw [hresult] at h
            cases h
            exact ⟨rfl, rfl, rfl, rfl, .inr ⟨c, hc, rfl, hchecked⟩⟩

/-! ### A login that is denied -/

/-- A provider that sends the browser back with an error. -/
def deniedSurroundings : Surroundings :=
  { straySurroundings with
    visits := fun _ => [⟨"GET", ⟨['/'], "error=access_denied&state=AQID".toList⟩⟩] }

/-- A machine with tokens of an earlier login, and with a secret that an earlier check has left. -/
def usedMachine : Machine :=
  { newMachine with keyring := .make [((clientOf "one").tokenEntry "p", "tokens"),
      ((clientOf "one").checkEntry "p", Keyring.checkSecret)] .working }

theorem config?_usedMachine : usedMachine.config? = some Config.empty := config?_newMachine

/-- A login that is denied leaves the tokens, and nothing in the entry of its check. -/
theorem logIn_of_obtainTokens_error_denied :
    ∃ m', (obtainTokens deniedSurroundings "p" (clientOf "one") fiveSeconds).run.run usedMachine =
        (.error (.login (.authorization "access_denied" none)), m') ∧
      (logIn deniedSurroundings "p" (clientOf "one") fiveSeconds).run.run usedMachine =
        (.error (.login (.authorization "access_denied" none)), m') ∧
      m'.files = usedMachine.files ∧
      m'.keyring.secret? ((clientOf "one").tokenEntry "p") = some "tokens" ∧
      m'.keyring.secret? ((clientOf "one").checkEntry "p") = none := by
  have hrun : ((obtainTokens deniedSurroundings "p" (clientOf "one") fiveSeconds).run.run
        usedMachine).1 = .error (.login (.authorization "access_denied" none)) ∧
      ((obtainTokens deniedSurroundings "p" (clientOf "one") fiveSeconds).run.run
        usedMachine).2.runs.length = 1 := by
    decide +kernel
  rcases h : (obtainTokens deniedSurroundings "p" (clientOf "one") fiveSeconds).run.run
    usedMachine with ⟨answer, m'⟩
  rw [h] at hrun
  obtain ⟨rfl, hruns⟩ := hrun
  obtain ⟨-, hlogin, -, hfiles, -, -, hkeyring⟩ := logIn_of_obtainTokens_error h
  refine ⟨m', rfl, hlogin, hfiles, ?_⟩
  rcases hkeyring with rfl | ⟨c, hc, -, hchecked⟩
  · cases hruns
  · obtain rfl := Option.some.inj (config?_usedMachine.symm.trans hc)
    exact ⟨hchecked.sameBut.secret? ((clientOf "one").tokenEntry "p") (by decide),
      hchecked.removed rfl⟩

end SchemaSdk.Account
