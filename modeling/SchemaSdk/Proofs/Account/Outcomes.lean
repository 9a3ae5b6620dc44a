import SchemaSdk.Proofs.Account.Saving
import SchemaSdk.Proofs.Account.Secrets

/-!
# How operations end

What a login, a logout and a request for a token leave on a machine whose configuration can be
read. Each can end in a few ways, and nothing but what is named for a way has changed.
-/
namespace SchemaSdk.Account

open SchemaSdk.Login

variable {m m' : Machine} {c : Config}

/-! ## Calls on the keyring -/

/-- What storing a secret answers and leaves. -/
def Keyring.store (k : Keyring) (entry : EntryName) (secret : String) :
    Except EntryError Unit × Keyring :=
  match k.named with
  | .error e => (.error (.named e), k)
  | .ok () => ((k.set entry secret).1.mapError .stored, (k.set entry secret).2)

/-- What is left once the secret of an entry was to be removed. -/
def Keyring.forget (k : Keyring) (entry : EntryName) : Keyring :=
  match k.named with
  | .error _ => k
  | .ok () => (k.delete entry).2

theorem run_onKeyring {α : Type} (error : KeyringError → AccountError)
    (call : Keyring → Except KeyringError α × Keyring) (m : Machine) :
    (onKeyring error call).run.run m =
      ((call m.keyring).1.mapError error, { m with keyring := (call m.keyring).2 }) := by
  rw [onKeyring, run_get_bind]
  rcases call m.keyring with ⟨_ | a, k⟩ <;> rfl

theorem run_checkKeyring (entry : EntryName) (m : Machine) :
    (checkKeyring entry).run.run m =
      (.ok (m.keyring.check entry).1, { m with keyring := (m.keyring.check entry).2 }) := rfl

theorem run_storeTokens (wrap : EntryError → AccountError) (entry : EntryName) (t : Tokens)
    (m : Machine) : (storeTokens wrap entry t).run.run m =
      ((m.keyring.store entry t.text).1.mapError wrap,
        { m with keyring := (m.keyring.store entry t.text).2 }) := by
  rw [storeTokens, run_bind, nameEntry, run_onKeyring, Keyring.store]
  cases m.keyring.named with
  | error e => rfl
  | ok _ =>
    dsimp only [Except.mapError]
    rw [run_onKeyring]
    cases (m.keyring.set entry t.text).1 <;> rfl

theorem run_deleteTokens (wrap : EntryError → AccountError) (entry : EntryName) (m : Machine) :
    ((deleteTokens wrap entry).run.run m).2 =
      { m with keyring := m.keyring.forget entry } := by
  rw [deleteTokens, run_bind, nameEntry, run_onKeyring, Keyring.forget]
  cases m.keyring.named with
  | error e => rfl
  | ok _ =>
    dsimp only [Except.mapError]
    rw [run_onKeyring]

/-! ## Profiles that can be used -/

/-- A profile that a login can use: it has a client, and says something about endpoints. -/
structure Profile.Usable (p : Profile) : Prop where
  clientId : p.clientId.isEmpty = false
  endpoints : p.givesEndpoints = true

theorem Profile.givesEndpoints_of_endpoints {p : Profile} {e : Endpoints}
    (h : p.endpoints = .ok e) : p.givesEndpoints = true := by
  obtain ⟨clientId, authority, authorization, token, scopes⟩ := p
  cases authority with
  | some authority => rfl
  | none =>
    cases authorization with
    | some authorization => rfl
    | none => cases h

/-! ## Logging in -/

section LogIn

variable {s : Surroundings} {name : String} {requested : Profile} {o : LoginOptions}

theorem run_saveLogin (hc : m.config? = some c) (name : String) (p : Profile) (t : Tokens) :
    (saveLogin name p t).run.run m =
      match m.keyring.store (p.tokenEntry name) t.text with
      | (.error e, k) => (.error (.notStored e), { m with keyring := k })
      | (.ok (), k) =>
        (saveConfig ((c.setProfile name p).activate name)).run.run { m with keyring := k } := by
  rw [saveLogin, run_bind, run_storeTokens]
  rcases m.keyring.store (p.tokenEntry name) t.text with ⟨e | _, k⟩
  · rfl
  · have hc' : Machine.config? { m with keyring := k } = some c := hc
    dsimp only [Except.mapError]
    rw [run_bind, run_loadConfig_of_config? hc']

theorem run_endpointsOf (p : Profile) (m : Machine) :
    (endpointsOf p).run.run m = (p.endpoints.mapError .endpoints, m) := by
  rw [endpointsOf]
  cases p.endpoints <;> rfl

theorem run_runLogin (s : Surroundings) (config : LoginConfig) (m : Machine) :
    (runLogin s config).run.run m = ((config.run s).result.mapError .login,
      { m with runs := m.runs ++ [config.run s] }) := by
  rw [runLogin, run_bind]
  cases (config.run s).result <;> rfl

/-- What a login does before it saves anything: it gives a profile, and fresh tokens for it. -/
def obtainTokens (s : Surroundings) (name : String) (requested : Profile) (o : LoginOptions) :
    Session (Profile × Tokens) := do
  let c ← loadConfig
  let p := requested.completed (c.profile? name)
  if p.clientId.isEmpty then throw (.noClientId name)
  if !(← checkKeyring (p.checkEntry name)) then throw .noKeyring
  let endpoints ← endpointsOf p
  let t ← runLogin s ⟨endpoints, p.clientId, p.scopes, o.callbackAddress, o.milliseconds⟩
  return (p, t)

/-- A login obtains tokens, and saves them. -/
theorem logIn_eq (s : Surroundings) (name : String) (requested : Profile) (o : LoginOptions) :
    logIn s name requested o =
      (obtainTokens s name requested o >>= fun (p, t) => saveLogin name p t) := by
  rw [logIn, obtainTokens, bind_assoc]
  refine bind_congr fun c => ?_
  by_cases hid : (requested.completed (c.profile? name)).clientId.isEmpty = true
  · rw [if_pos hid, if_pos hid]
    rfl
  · rw [if_neg hid, if_neg hid, bind_assoc]
    refine bind_congr fun works => ?_
    cases works with
    | false => rfl
    | true => simp

/-- What is done to obtain tokens step by step, where a configuration was loaded. -/
theorem run_obtainTokens (hc : m.config? = some c) (s : Surroundings) (name : String)
    (requested : Profile) (o : LoginOptions) : (obtainTokens s name requested o).run.run m =
      let p := requested.completed (c.profile? name)
      let checked := m.keyring.check (p.checkEntry name)
      if p.clientId.isEmpty then (.error (.noClientId name), m)
      else if !checked.1 then (.error .noKeyring, { m with keyring := checked.2 })
      else match p.endpoints with
        | .error e => (.error (.endpoints e), { m with keyring := checked.2 })
        | .ok endpoints =>
          let run := LoginConfig.run ⟨endpoints, p.clientId, p.scopes, o.callbackAddress,
            o.milliseconds⟩ s
          ((run.result.mapError .login).map (p, ·),
            { m with keyring := checked.2, runs := m.runs ++ [run] }) := by
  rw [obtainTokens, run_bind, run_loadConfig_of_config? hc]
  dsimp only
  generalize requested.completed (c.profile? name) = p
  by_cases hid : p.clientId.isEmpty = true
  · rw [if_pos hid, if_pos hid]
    rfl
  · rw [if_neg hid, if_neg hid, run_bind, run_checkKeyring]
    dsimp only
    cases (m.keyring.check (p.checkEntry name)).1 with
    | false => rfl
    | true =>
      rw [if_neg (by simp), if_neg (by simp), run_bind, run_endpointsOf]
      cases p.endpoints with
      | error e => rfl
      | ok endpoints =>
        dsimp only [Except.mapError]
        rw [run_bind, run_runLogin]
        generalize LoginConfig.run ⟨endpoints, p.clientId, p.scopes, o.callbackAddress,
          o.milliseconds⟩ s = run
        cases run.result <;> rfl

/-- What a login does step by step, where a configuration was loaded. -/
theorem run_logIn (hc : m.config? = some c) (s : Surroundings) (name : String)
    (requested : Profile) (o : LoginOptions) : (logIn s name requested o).run.run m =
      let p := requested.completed (c.profile? name)
      let checked := m.keyring.check (p.checkEntry name)
      if p.clientId.isEmpty then (.error (.noClientId name), m)
      else if !checked.1 then (.error .noKeyring, { m with keyring := checked.2 })
      else match p.endpoints with
        | .error e => (.error (.endpoints e), { m with keyring := checked.2 })
        | .ok endpoints =>
          let run := LoginConfig.run ⟨endpoints, p.clientId, p.scopes, o.callbackAddress,
            o.milliseconds⟩ s
          let asked := { m with keyring := checked.2, runs := m.runs ++ [run] }
          match run.result with
          | .error e => (.error (.login e), asked)
          | .ok t =>
            match checked.2.store (p.tokenEntry name) t.text with
            | (.error e, k) => (.error (.notStored e), { asked with keyring := k })
            | (.ok (), k) => (saveConfig ((c.setProfile name p).activate name)).run.run
              { asked with keyring := k } := by
  rw [logIn_eq, run_bind, run_obtainTokens hc]
  dsimp only
  generalize requested.completed (c.profile? name) = p
  by_cases hid : p.clientId.isEmpty = true
  · rw [if_pos hid, if_pos hid]
  · rw [if_neg hid, if_neg hid]
    cases (m.keyring.check (p.checkEntry name)).1 with
    | false => rfl
    | true =>
      rw [if_neg (by simp), if_neg (by simp)]
      cases p.endpoints with
      | error e => rfl
      | ok endpoints =>
        dsimp only
        generalize LoginConfig.run ⟨endpoints, p.clientId, p.scopes, o.callbackAddress,
          o.milliseconds⟩ s = run
        cases run.result with
        | error e => rfl
        | ok t =>
          have hc' : Machine.config? { m with
              keyring := (m.keyring.check (p.checkEntry name)).2
              runs := m.runs ++ [run] } = some c := hc
          exact run_saveLogin hc' name p t

/-- How a login to a profile can end, where a configuration was loaded. -/
inductive LogInEnds (m : Machine) (c : Config) (name : String) (p : Profile) :
    Except AccountError Unit → Machine → Prop
  /-- It fails before tokens are stored, or because they cannot be. -/
  | failed (e : AccountError) (keyring : Keyring) (runs : List Login.Run)
    (he : e.isOfSaving = false)
    (hkeyring : keyring = m.keyring ∨ keyring = (m.keyring.check (p.checkEntry name)).2 ∨
      ∃ secret e', (m.keyring.check (p.checkEntry name)).2.store (p.tokenEntry name) secret =
        (.error e', keyring)) :
    LogInEnds m c name p (.error e) { m with keyring := keyring, runs := runs }
  /-- Tokens are stored, and then the configuration is saved or not. -/
  | stored (t : Tokens) (answer : Except AccountError Unit) (files : FileSystem)
    (keyring : Keyring) (runs : List Login.Run) (hid : p.clientId.isEmpty = false)
    (hendpoints : ∃ e, p.endpoints = .ok e)
    (hkeyring : (m.keyring.check (p.checkEntry name)).2.store (p.tokenEntry name) t.text =
      (.ok (), keyring))
    (hsave : SaveEnds m.files m.cwd m.configPath ((c.setProfile name p).activate name) answer
      files) :
    LogInEnds m c name p answer { m with files := files, keyring := keyring, runs := runs }

theorem logIn_ends (hc : m.config? = some c) (s : Surroundings) (name : String)
    (requested : Profile) (o : LoginOptions) :
    LogInEnds m c name (requested.completed (c.profile? name))
      ((logIn s name requested o).run.run m).1 ((logIn s name requested o).run.run m).2 := by
  rw [run_logIn hc]
  generalize requested.completed (c.profile? name) = p
  dsimp only
  by_cases hid : p.clientId.isEmpty = true
  · rw [if_pos hid]
    exact .failed _ m.keyring m.runs rfl (.inl rfl)
  · rw [if_neg hid]
    split
    · exact .failed _ _ m.runs rfl (.inr (.inl rfl))
    · cases hendpoints : p.endpoints with
      | error e => exact .failed _ _ m.runs rfl (.inr (.inl rfl))
      | ok endpoints =>
        dsimp only
        generalize LoginConfig.run ⟨endpoints, p.clientId, p.scopes, o.callbackAddress,
          o.milliseconds⟩ s = run
        cases run.result with
        | error e => exact .failed _ _ _ rfl (.inr (.inl rfl))
        | ok t =>
          dsimp only
          rcases hstore : (m.keyring.check (p.checkEntry name)).2.store (p.tokenEntry name) t.text
            with ⟨e | _, k⟩
          · dsimp only
            exact .failed _ k _ rfl (.inr (.inr ⟨_, _, hstore⟩))
          · dsimp only
            rcases hsave : (saveConfig ((c.setProfile name p).activate name)).run.run
              { m with keyring := k, runs := m.runs ++ [run] } with ⟨answer, m₁⟩
            obtain ⟨files, rfl, hends⟩ := saveConfig_ends hsave
            exact .stored t answer files k _ (by simpa using hid) ⟨endpoints, hendpoints⟩ hstore
              hends

theorem LogInEnds.configDirectory {p : Profile} {answer : Except AccountError Unit}
    (h : LogInEnds m c name p answer m') : m'.configDirectory = m.configDirectory := by
  cases h <;> rfl

/-- A login that succeeded used its profile. -/
theorem LogInEnds.usable {p : Profile} (h : LogInEnds m c name p (.ok ()) m') : p.Usable := by
  cases h with
  | stored t _ files keyring runs hid hendpoints hkeyring hsave =>
    obtain ⟨e, he⟩ := hendpoints
    exact ⟨hid, Profile.givesEndpoints_of_endpoints he⟩

/-- After a login that succeeded, its profile is the active one and is stored. -/
theorem LogInEnds.config?_of_ok {p : Profile} (h : LogInEnds m c name p (.ok ()) m')
    (hc : m.config? = some c) : m'.config? = some ((c.setProfile name p).activate name) := by
  cases h with
  | stored t _ files keyring runs hid hendpoints hkeyring hsave =>
    exact hsave.config? (((distinct_of_config? hc).setProfile name p).activate name) keyring runs

/-- After a login that succeeded, a reliable system can save the configuration again. -/
theorem LogInEnds.saveable {p : Profile} (h : LogInEnds m c name p (.ok ()) m')
    (hfiles : m.files.Reliable) : m'.Saveable := by
  cases h with
  | stored t _ files keyring runs hid hendpoints hkeyring hsave =>
    exact hsave.saveable hfiles keyring runs

/-- A login that failed, though not while saving, leaves the configuration. -/
theorem LogInEnds.config?_of_error {p : Profile} {e : AccountError}
    (h : LogInEnds m c name p (.error e) m') (hc : m.config? = some c)
    (he : e.isOfSaving = false) : m'.config? = some c := by
  cases h with
  | failed _ keyring runs _ hkeyring => exact hc
  | stored t _ files keyring runs hid hendpoints hkeyring hsave =>
    rw [hsave.saving] at he
    cases he

/-- A configuration that is on disk after a login that failed was there before, unless saving it
failed on a system that does not do what it should. -/
theorem LogInEnds.config?_of_failed {p : Profile} {e : AccountError}
    (h : LogInEnds m c name p (.error e) m')
    (hfiles : m.files.Reliable ∨ e.isOfSaving = false) {old : Config}
    (hold : m'.config? = some old) : m.config? = some old := by
  cases h with
  | failed _ keyring runs _ hkeyring => exact hold
  | stored t _ files keyring runs hid hendpoints hkeyring hsave =>
    rcases hfiles with hreliable | he
    · exact hsave.config?_of_error hreliable keyring runs hold
    · rw [hsave.saving] at he
      cases he

/-- A login leaves a reliable system so. -/
theorem LogInEnds.reliable {p : Profile} {answer : Except AccountError Unit}
    (h : LogInEnds m c name p answer m') (hfiles : m.files.Reliable) : m'.files.Reliable := by
  cases h with
  | failed => exact hfiles
  | stored t _ files keyring runs hid hendpoints hkeyring hsave =>
    exact hsave.sameBut.reliable hfiles

end LogIn

/-! ## Logging out -/

theorem run_tryCatch {α : Type} (x : Session α) (handle : AccountError → Session α) (m : Machine) :
    (tryCatch x handle).run.run m = match x.run.run m with
      | (.ok a, m') => (.ok a, m')
      | (.error e, m') => (handle e).run.run m' := by
  have hx : x.run.run m = StateT.run x m := rfl
  rw [hx]
  simp only [tryCatch, tryCatchThe, MonadExceptOf.tryCatch, ExceptT.tryCatch, ExceptT.run_mk,
    StateT.run_bind]
  rcases StateT.run x m with ⟨_ | a, m'⟩ <;> rfl

theorem run_resolveProfile (c : Config) (name : Option String) (m : Machine) :
    (resolveProfile c name).run.run m = match c.profile? (name.getD c.active) with
      | some p => (.ok (name.getD c.active, p), m)
      | none => (.error (.noProfile (name.getD c.active)), m) := by
  rw [resolveProfile, Config.resolve?]
  cases c.profile? (name.getD c.active) <;> rfl

theorem run_deleteProfile (hc : m.config? = some c) {name : String} {p : Profile}
    (hp : c.profile? name = some p) : (deleteProfile name).run.run m =
      (saveConfig (c.removeProfile name)).run.run
        { m with keyring := m.keyring.forget (p.tokenEntry name) } := by
  have hdelete := run_deleteTokens .entry (p.tokenEntry name) m
  rw [deleteProfile, run_bind, run_loadConfig_of_config? hc]
  dsimp only
  rw [run_bind, run_resolveProfile, Option.getD_some, hp]
  dsimp only
  rw [run_bind, run_tryCatch]
  rcases hrun : (deleteTokens .entry (p.tokenEntry name)).run.run m with ⟨e | _, m₁⟩
  · rw [hrun] at hdelete
    dsimp only at hdelete ⊢
    rw [hdelete]
    rfl
  · rw [hrun] at hdelete
    dsimp only at hdelete ⊢
    rw [hdelete]

/-- How a logout of a profile can end, where a configuration was loaded. -/
inductive LogOutEnds (m : Machine) (c : Config) (name : String) :
    Except AccountError String → Machine → Prop
  /-- There is no such profile. -/
  | noProfile (hp : c.profile? name = none) : LogOutEnds m c name (.error (.noProfile name)) m
  /-- The tokens are forgotten, if the keyring lets them, and then the profile is, or it is not
  because the configuration cannot be saved. -/
  | removed (p : Profile) (hp : c.profile? name = some p) (answer : Except AccountError Unit)
    (files : FileSystem)
    (hsave : SaveEnds m.files m.cwd m.configPath (c.removeProfile name) answer files) :
    LogOutEnds m c name (answer.map fun _ => name)
      { m with files := files, keyring := m.keyring.forget (p.tokenEntry name) }

/-- What a logout does, where a configuration was loaded. -/
theorem run_logOut (hc : m.config? = some c) (name : Option String) :
    (logOut name).run.run m = match c.profile? (name.getD c.active) with
      | none => (.error (.noProfile (name.getD c.active)), m)
      | some p =>
        let forgotten := { m with keyring := m.keyring.forget (p.tokenEntry (name.getD c.active)) }
        let saved := (saveConfig (c.removeProfile (name.getD c.active))).run.run forgotten
        (saved.1.map fun _ => name.getD c.active, saved.2) := by
  rw [logOut, run_bind, run_loadConfig_of_config? hc]
  dsimp only
  rw [run_bind, run_resolveProfile]
  cases hp : c.profile? (name.getD c.active) with
  | none => rfl
  | some p =>
    dsimp only
    rw [run_bind, run_deleteProfile hc hp]
    rcases (saveConfig (c.removeProfile (name.getD c.active))).run.run
      { m with keyring := m.keyring.forget (p.tokenEntry (name.getD c.active)) } with ⟨_ | _, _⟩ <;>
      rfl

/-- A logout of a profile that there is succeeds where the configuration can be saved. -/
theorem run_logOut_of_saveable (hc : m.config? = some c) (hsaveable : m.Saveable)
    {name : Option String} {p : Profile} (hp : c.profile? (name.getD c.active) = some p) :
    ∃ files, (logOut name).run.run m = (.ok (name.getD c.active), { m with
      files := files
      keyring := m.keyring.forget (p.tokenEntry (name.getD c.active)) }) := by
  have hsaveable' : Machine.Saveable { m with
      keyring := m.keyring.forget (p.tokenEntry (name.getD c.active)) } :=
    ⟨hsaveable.file, hsaveable.directory, hsaveable.reliable⟩
  obtain ⟨files, hsave⟩ :=
    run_saveConfig_of_saveable hsaveable' (c.removeProfile (name.getD c.active))
  refine ⟨files, ?_⟩
  rw [run_logOut hc, hp]
  dsimp only
  rw [hsave]
  rfl

theorem logOut_ends (hc : m.config? = some c) (name : Option String) :
    LogOutEnds m c (name.getD c.active) ((logOut name).run.run m).1
      ((logOut name).run.run m).2 := by
  rw [run_logOut hc]
  cases hp : c.profile? (name.getD c.active) with
  | none => exact .noProfile hp
  | some p =>
    dsimp only
    rcases hsave : (saveConfig (c.removeProfile (name.getD c.active))).run.run
      { m with keyring := m.keyring.forget (p.tokenEntry (name.getD c.active)) } with ⟨answer, m₁⟩
    obtain ⟨files, rfl, hends⟩ := saveConfig_ends hsave
    exact .removed p hp answer files hends

theorem LogOutEnds.configDirectory {name : String} {answer : Except AccountError String}
    (h : LogOutEnds m c name answer m') : m'.configDirectory = m.configDirectory := by
  cases h <;> rfl

/-- After a logout that succeeded, its profile is gone. -/
theorem LogOutEnds.config?_of_ok {name found : String} (h : LogOutEnds m c name (.ok found) m')
    (hc : m.config? = some c) : m'.config? = some (c.removeProfile name) := by
  generalize hanswer : (.ok found : Except AccountError String) = answer at h
  cases h with
  | noProfile hp => cases hanswer
  | removed p hp answer files hsave =>
    cases answer with
    | error e => cases hanswer
    | ok _ =>
      exact hsave.config? ((distinct_of_config? hc).removeProfile name) _ _

/-- A logout that failed, though not while saving, leaves the configuration. -/
theorem LogOutEnds.config?_of_error {name : String} {e : AccountError}
    (h : LogOutEnds m c name (.error e) m') (hc : m.config? = some c)
    (he : e.isOfSaving = false) : m'.config? = some c := by
  generalize hanswer : (.error e : Except AccountError String) = answer at h
  cases h with
  | noProfile hp => exact hc
  | removed p hp answer files hsave =>
    cases answer with
    | error e' =>
      cases hanswer
      rw [hsave.saving] at he
      cases he
    | ok _ => cases hanswer

/-- A configuration that is on disk after a logout that failed was there before, unless saving it
failed on a system that does not do what it should. -/
theorem LogOutEnds.config?_of_failed {name : String} {e : AccountError}
    (h : LogOutEnds m c name (.error e) m')
    (hfiles : m.files.Reliable ∨ e.isOfSaving = false) {old : Config}
    (hold : m'.config? = some old) : m.config? = some old := by
  generalize hanswer : (.error e : Except AccountError String) = answer at h
  cases h with
  | noProfile hp => exact hold
  | removed p hp answer files hsave =>
    cases answer with
    | error e' =>
      cases hanswer
      rcases hfiles with hreliable | he
      · exact hsave.config?_of_error hreliable _ _ hold
      · rw [hsave.saving] at he
        cases he
    | ok _ => cases hanswer

/-- A logout leaves a reliable system so. -/
theorem LogOutEnds.reliable {name : String} {answer : Except AccountError String}
    (h : LogOutEnds m c name answer m') (hfiles : m.files.Reliable) : m'.files.Reliable := by
  cases h with
  | noProfile => exact hfiles
  | removed p hp answer files hsave => exact hsave.sameBut.reliable hfiles

/-! ## Tokens -/

/-- The tokens that a keyring gives for an entry. -/
def Keyring.tokens (k : Keyring) (entry : EntryName) : Except EntryError Tokens :=
  match k.named with
  | .error e => .error (.named e)
  | .ok () =>
    match (k.get entry).1 with
    | .error e => .error (.retrieved e)
    | .ok secret =>
      match Tokens.ofText? secret with
      | some t => .ok t
      | none => .error .malformed

/-- Two keyrings of the same mode with the same secret for an entry give the same tokens for it. -/
theorem Keyring.tokens_congr {k k' : Keyring} {entry : EntryName} (hmode : k'.mode = k.mode)
    (hsecret : k'.secret? entry = k.secret? entry) : k'.tokens entry = k.tokens entry := by
  have hnamed : k'.named = k.named := by rw [Keyring.named, Keyring.named, hmode]
  rw [Keyring.tokens, Keyring.tokens, hnamed, Keyring.get_fst_congr hmode hsecret]

/-- What the tokens of a profile are is a matter of its entry. Asking for them changes nothing but
the calls that the keyring has seen. -/
theorem run_loadTokens (hc : m.config? = some c) (name : Option String) :
    (loadTokens name).run.run m = match c.profile? (name.getD c.active) with
      | none => (.error (.noProfile (name.getD c.active)), m)
      | some p =>
        ((m.keyring.tokens (p.tokenEntry (name.getD c.active))).mapError .noTokens,
          { m with keyring :=
              if m.keyring.named.isOk then (m.keyring.get (p.tokenEntry (name.getD c.active))).2
              else m.keyring }) := by
  rw [loadTokens, run_bind, run_loadConfig_of_config? hc]
  dsimp only
  rw [run_bind, run_resolveProfile]
  cases c.profile? (name.getD c.active) with
  | none => rfl
  | some p =>
    dsimp only
    rw [fetchTokens, run_bind, nameEntry, run_onKeyring, Keyring.tokens]
    cases m.keyring.named with
    | error e => rfl
    | ok _ =>
      dsimp only [Except.mapError]
      rw [run_bind, run_onKeyring]
      cases (m.keyring.get (p.tokenEntry (name.getD c.active))).1 with
      | error e => rfl
      | ok secret =>
        dsimp only [Except.mapError]
        cases Tokens.ofText? secret <;> rfl

/-- A request for an access token leaves all secrets and the configuration as they are. -/
theorem accessToken_ends (hc : m.config? = some c) (name : Option String) :
    ∃ keyring : Keyring, keyring.mode = m.keyring.mode ∧ keyring.items = m.keyring.items ∧
      ((accessToken name).run.run m).2 = { m with keyring := keyring } := by
  have hafter : ((accessToken name).run.run m).2 = ((loadTokens name).run.run m).2 := by
    rw [accessToken, run_bind]
    rcases (loadTokens name).run.run m with ⟨_ | t, next⟩ <;> rfl
  rw [hafter, run_loadTokens hc]
  cases c.profile? (name.getD c.active) with
  | none => exact ⟨m.keyring, rfl, rfl, rfl⟩
  | some p =>
    by_cases hnamed : m.keyring.named.isOk = true
    · refine ⟨(m.keyring.get (p.tokenEntry (name.getD c.active))).2, Keyring.mode_get _ _,
        Keyring.items_get _ _, ?_⟩
      simp only [if_pos hnamed]
    · refine ⟨m.keyring, rfl, rfl, ?_⟩
      simp only [if_neg hnamed]

end SchemaSdk.Account
