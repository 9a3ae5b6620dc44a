import SchemaSdk.CommandLine.Execution
import SchemaSdk.Proofs.Account.Isolation
import SchemaSdk.Proofs.Account.Ledger

/-!
# Histories of commands

What a row of commands about accounts leaves on disk is told by the logins and logouts among them
that succeeded. Commands that fail and requests for tokens leave the configuration as it was.
-/
namespace SchemaSdk.CommandLine

open SchemaSdk.Account SchemaSdk.Login

/-- A command about accounts. -/
def Command.OfAccount : Command → Prop
  | .login _ => True
  | .token _ => True
  | .logout _ => True
  | _ => False

/-- Executes commands one after another, each in its surroundings: every command with its answer,
and the machine afterwards. -/
def executeAll (environment : Environment) (directory : String) :
    Machine → List (Surroundings × Command) →
      List (Command × Except CommandError String) × Machine
  | m, [] => ([], m)
  | m, (s, command) :: rest =>
    let (answer, next) := command.execute environment s directory m
    let (log, last) := executeAll environment directory next rest
    ((command, answer) :: log, last)

/-- The event that a command was, if it succeeded at one. -/
def event? (active : String) : Command → Bool → Option Event
  | .login r, true => some (.loggedIn r.profile r.requested)
  | .logout name, true => some (.loggedOut (name.getD active))
  | _, _ => none

/-- The events among commands with their answers. -/
def eventsOf (l : Ledger) : List (Command × Except CommandError String) → List Event
  | [] => []
  | (command, answer) :: log =>
    match event? l.active command answer.isOk with
    | some e => e :: eventsOf (l.apply e) log
    | none => eventsOf l log

/-! ## Single commands -/

variable {environment : Environment} {directory : String} {m : Machine} {c : Config}

theorem inSession_eq (henvironment : configDirectory? environment = some m.configDirectory)
    (x : Session String) : inSession environment m x =
      ((x.run.run m).1.mapError .account, (x.run.run m).2) := by
  rw [inSession, henvironment]
  rfl

theorem execute_login (henvironment : configDirectory? environment = some m.configDirectory)
    (s : Surroundings) (directory : String) (r : LoginRequest) :
    ∃ report : Unit → String, (Command.login r).execute environment s directory m =
      let (answer, next) := (logIn s r.profile r.requested
        ⟨r.callbackAddress, 1000 * r.seconds⟩).run.run m
      ((answer.map report).mapError .account, next) := by
  rw [Command.execute, inSession_eq henvironment, logInReport, run_bind]
  rcases (logIn s r.profile r.requested ⟨r.callbackAddress, 1000 * r.seconds⟩).run.run m with
    ⟨e | _, next⟩
  · exact ⟨fun _ => "", rfl⟩
  · exact ⟨fun _ => _, rfl⟩

theorem execute_logout (henvironment : configDirectory? environment = some m.configDirectory)
    (s : Surroundings) (directory : String) (name : Option String) :
    ∃ report : String → String, (Command.logout name).execute environment s directory m =
      let (answer, next) := (logOut name).run.run m
      ((answer.map report).mapError .account, next) := by
  rw [Command.execute, inSession_eq henvironment, logOutReport, run_bind]
  rcases (logOut name).run.run m with ⟨e | found, next⟩
  · exact ⟨id, rfl⟩
  · exact ⟨fun found => _, rfl⟩

/-- A login that succeeds is a command that succeeds. -/
theorem execute_login_of_ok (henvironment : configDirectory? environment = some m.configDirectory)
    {s : Surroundings} {r : LoginRequest} {name : String} {requested : Profile} {o : LoginOptions}
    (hname : r.profile = name) (hrequested : r.requested = requested)
    (hoptions : ⟨r.callbackAddress, 1000 * r.seconds⟩ = o)
    (hrun : ((logIn s name requested o).run.run m).1 = .ok ()) (directory : String) :
    ∃ a, (Command.login r).execute environment s directory m =
      (.ok a, ((logIn s name requested o).run.run m).2) := by
  obtain ⟨report, h⟩ := execute_login henvironment s directory r
  rw [hname, hrequested, hoptions] at h
  rcases hlogin : (logIn s name requested o).run.run m with ⟨answer, next⟩
  rw [hlogin] at h hrun
  obtain rfl : answer = .ok () := hrun
  exact ⟨report (), h⟩

/-- A login that fails is a command that fails with its error. -/
theorem execute_login_of_error (henvironment : configDirectory? environment = some m.configDirectory)
    {s : Surroundings} {r : LoginRequest} {name : String} {requested : Profile} {o : LoginOptions}
    (hname : r.profile = name) (hrequested : r.requested = requested)
    (hoptions : ⟨r.callbackAddress, 1000 * r.seconds⟩ = o) {e : AccountError}
    (hrun : ((logIn s name requested o).run.run m).1 = .error e) (directory : String) :
    (Command.login r).execute environment s directory m =
      (.error (.account e), ((logIn s name requested o).run.run m).2) := by
  obtain ⟨report, h⟩ := execute_login henvironment s directory r
  rw [hname, hrequested, hoptions] at h
  rcases hlogin : (logIn s name requested o).run.run m with ⟨answer, next⟩
  rw [hlogin] at h hrun
  obtain rfl : answer = .error e := hrun
  exact h

/-- A logout that succeeds is a command that succeeds. -/
theorem execute_logout_of_ok (henvironment : configDirectory? environment = some m.configDirectory)
    {name : Option String} {found : String} {next : Machine}
    (hrun : (logOut name).run.run m = (.ok found, next)) (s : Surroundings) (directory : String) :
    ∃ a, (Command.logout name).execute environment s directory m = (.ok a, next) := by
  obtain ⟨report, h⟩ := execute_logout henvironment s directory name
  rw [hrun] at h
  exact ⟨report found, h⟩

theorem execute_token (henvironment : configDirectory? environment = some m.configDirectory)
    (s : Surroundings) (directory : String) (name : Option String) :
    (Command.token name).execute environment s directory m =
      (((accessToken name).run.run m).1.mapError .account, ((accessToken name).run.run m).2) := by
  rw [Command.execute, inSession_eq henvironment]

/-- How a command about accounts can end, where a configuration was loaded. -/
inductive CommandEnds (m : Machine) (c : Config) :
    Command → Except CommandError String → Machine → Prop
  | loggedIn (r : LoginRequest) (report : String) (next : Machine)
    (hends : LogInEnds m c r.profile (r.requested.completed (c.profile? r.profile)) (.ok ()) next) :
    CommandEnds m c (.login r) (.ok report) next
  | noLogin (r : LoginRequest) (e : AccountError) (next : Machine)
    (hends : LogInEnds m c r.profile (r.requested.completed (c.profile? r.profile)) (.error e)
      next) :
    CommandEnds m c (.login r) (.error (.account e)) next
  | loggedOut (name : Option String) (found report : String) (next : Machine)
    (hends : LogOutEnds m c (name.getD c.active) (.ok found) next) :
    CommandEnds m c (.logout name) (.ok report) next
  | noLogout (name : Option String) (e : AccountError) (next : Machine)
    (hends : LogOutEnds m c (name.getD c.active) (.error e) next) :
    CommandEnds m c (.logout name) (.error (.account e)) next
  | asked (name : Option String) (answer : Except CommandError String) (keyring : Keyring)
    (hmode : keyring.mode = m.keyring.mode) (hitems : keyring.items = m.keyring.items) :
    CommandEnds m c (.token name) answer { m with keyring := keyring }

theorem execute_ends (henvironment : configDirectory? environment = some m.configDirectory)
    (hc : m.config? = some c) (s : Surroundings) (directory : String) {command : Command}
    (hcommand : command.OfAccount) {answer : Except CommandError String} {next : Machine}
    (hrun : command.execute environment s directory m = (answer, next)) :
    CommandEnds m c command answer next := by
  cases command with
  | generate => cases hcommand
  | order => cases hcommand
  | login r =>
    obtain ⟨report, hexecute⟩ := execute_login henvironment s directory r
    have hends := logIn_ends hc s r.profile r.requested ⟨r.callbackAddress, 1000 * r.seconds⟩
    rw [hexecute] at hrun
    rcases hlogin : (logIn s r.profile r.requested
      ⟨r.callbackAddress, 1000 * r.seconds⟩).run.run m with ⟨e | _, m'⟩
    · rw [hlogin] at hrun hends
      cases hrun
      exact .noLogin r e _ hends
    · rw [hlogin] at hrun hends
      cases hrun
      exact .loggedIn r _ _ hends
  | token name =>
    rw [execute_token henvironment] at hrun
    obtain ⟨keyring, hmode, hitems, hafter⟩ := accessToken_ends hc name
    rw [hafter] at hrun
    cases hrun
    exact .asked name _ keyring hmode hitems
  | logout name =>
    obtain ⟨report, hexecute⟩ := execute_logout henvironment s directory name
    have hends := logOut_ends hc name
    rw [hexecute] at hrun
    rcases hlogout : (logOut name).run.run m with ⟨e | found, m'⟩
    · rw [hlogout] at hrun hends
      cases hrun
      exact .noLogout name e _ hends
    · rw [hlogout] at hrun hends
      cases hrun
      exact .loggedOut name found _ _ hends

theorem CommandEnds.configDirectory {command : Command} {answer : Except CommandError String}
    {next : Machine} (h : CommandEnds m c command answer next) :
    next.configDirectory = m.configDirectory := by
  cases h with
  | loggedIn _ _ _ hends => exact hends.configDirectory
  | noLogin _ _ _ hends => exact hends.configDirectory
  | loggedOut _ _ _ _ hends => exact hends.configDirectory
  | noLogout _ _ _ hends => exact hends.configDirectory
  | asked => rfl

/-- A command about accounts leaves a reliable system so. -/
theorem CommandEnds.reliable {command : Command} {answer : Except CommandError String}
    {next : Machine} (h : CommandEnds m c command answer next) (hfiles : m.files.Reliable) :
    next.files.Reliable := by
  cases h with
  | loggedIn _ _ _ hends => exact hends.reliable hfiles
  | noLogin _ _ _ hends => exact hends.reliable hfiles
  | loggedOut _ _ _ _ hends => exact hends.reliable hfiles
  | noLogout _ _ _ hends => exact hends.reliable hfiles
  | asked => exact hfiles

/-- What a command about accounts does to the configuration is its event, or nothing. -/
theorem CommandEnds.config? {command : Command} {answer : Except CommandError String}
    {next : Machine} (h : CommandEnds m c command answer next) (hc : m.config? = some c)
    (hsaved : ∀ e, answer = .error (.account e) → e.isOfSaving = false) :
    ∃ c', next.config? = some c' ∧
      match event? c.ledger.active command answer.isOk with
      | some e => c'.ledger = c.ledger.apply e ∧ c.ledger.SoundAt e
      | none => c' = c := by
  cases h with
  | loggedIn r report next hends =>
    exact ⟨_, hends.config?_of_ok hc, ledger_login c _ _, hends.usable⟩
  | noLogin r e next hends => exact ⟨c, hends.config?_of_error hc (hsaved e rfl), rfl⟩
  | loggedOut name found report next hends =>
    exact ⟨_, hends.config?_of_ok hc, ledger_logout c _, trivial⟩
  | noLogout name e next hends => exact ⟨c, hends.config?_of_error hc (hsaved e rfl), rfl⟩
  | asked name answer keyring => exact ⟨c, hc, by cases answer <;> rfl⟩

/-! ## Histories -/

/-- No answer of a log tells of an error while saving. -/
def Saved (log : List (Command × Except CommandError String)) : Prop :=
  ∀ x ∈ log, ∀ e, x.2 = .error (.account e) → e.isOfSaving = false

/-- A history is its first command, and the history that goes on from there. -/
theorem executeAll_cons {s : Surroundings} {command : Command}
    {rest : List (Surroundings × Command)} {answer : Except CommandError String} {next : Machine}
    (hrun : command.execute environment s directory m = (answer, next)) :
    executeAll environment directory m ((s, command) :: rest) =
      ((command, answer) :: (executeAll environment directory next rest).1,
        (executeAll environment directory next rest).2) := by
  rw [executeAll, hrun]

/-- The configuration after commands is what their events make of the one before. -/
theorem replay_executeAll (henvironment : configDirectory? environment = some m.configDirectory)
    (hc : m.config? = some c) {commands : List (Surroundings × Command)}
    (hcommands : ∀ x ∈ commands, x.2.OfAccount)
    (hsaved : Saved (executeAll environment directory m commands).1) :
    ∃ c', (executeAll environment directory m commands).2.config? = some c' ∧
      c'.ledger = c.ledger.replay
        (eventsOf c.ledger (executeAll environment directory m commands).1) ∧
      c.ledger.Sound (eventsOf c.ledger (executeAll environment directory m commands).1) := by
  induction commands generalizing m c with
  | nil => exact ⟨c, hc, rfl, trivial⟩
  | cons x rest ih =>
    obtain ⟨s, command⟩ := x
    rcases hrun : command.execute environment s directory m with ⟨answer, next⟩
    rw [executeAll_cons hrun] at hsaved ⊢
    have hends := execute_ends henvironment hc s directory (hcommands _ List.mem_cons_self) hrun
    obtain ⟨c₁, hc₁, hevent⟩ := hends.config? hc (hsaved _ List.mem_cons_self)
    obtain ⟨c', hc', hledger, hsound⟩ := ih (hends.configDirectory ▸ henvironment) hc₁
      (fun y hy => hcommands y (List.mem_cons_of_mem _ hy))
      (fun y hy => hsaved y (List.mem_cons_of_mem _ hy))
    refine ⟨c', hc', ?_⟩
    rw [eventsOf]
    cases he : event? c.ledger.active command answer.isOk with
    | none =>
      rw [he] at hevent
      obtain rfl : c₁ = c := hevent
      exact ⟨hledger, hsound⟩
    | some e =>
      rw [he] at hevent
      obtain ⟨hfirst, hsoundFirst⟩ := hevent
      rw [hfirst] at hledger hsound
      exact ⟨hledger, hsoundFirst, hsound⟩

/-- After commands about accounts, the configuration on disk is what the events among them make of
the one before, and each part of a profile comes from the login that its tale tells. -/
theorem config?_executeAll (henvironment : configDirectory? environment = some m.configDirectory)
    (hc : m.config? = some c) {commands : List (Surroundings × Command)}
    (hcommands : ∀ x ∈ commands, x.2.OfAccount)
    (hsaved : Saved (executeAll environment directory m commands).1) :
    let events := eventsOf c.ledger (executeAll environment directory m commands).1
    ∃ c', (executeAll environment directory m commands).2.config? = some c' ∧
      c'.ledger = c.ledger.replay events ∧
      ∀ name p, c'.profile? name = some p →
        Provenance (c.profile? name) (.ofEvents name events) p := by
  intro events
  obtain ⟨c', hc', hledger, hsound⟩ := replay_executeAll henvironment hc hcommands hsaved
  refine ⟨c', hc', hledger, ?_⟩
  intro name p hp
  apply provenance_of_replay c.ledger hsound
  rw [← hledger]
  exact hp

/-! ### Another client for a profile -/

/-- An environment that says where the configuration is. -/
def homeEnvironment : Environment := [("SDKGEN_CONFIG_DIR", "/conf")]

/-- The request for a login to a profile, with a client and maybe endpoints. -/
def requestOf (id : String) (authorizeUrl tokenUrl : Option String) : LoginRequest :=
  ⟨"p", some id, none, authorizeUrl, tokenUrl, [], "127.0.0.1:3000", 5⟩

/-- A login, and another one that names another client and nothing else. -/
def changedClient : List (Surroundings × Command) := [
  (straySurroundings, .login (requestOf "one" (some "https://idp/auth") (some "https://idp/token"))),
  (straySurroundings, .login (requestOf "two" none none))]

/-- The second login, on the machine that the first one has left. -/
def secondLogin : Except AccountError Unit × Machine :=
  (logIn straySurroundings "p" (bareClient "two") fiveSeconds).run.run (firstLogin "p" "one").2

/-- The configuration after a login to the only profile. -/
def onlyProfile (id : String) : Config := (Config.empty.setProfile "p" (clientOf id)).activate "p"

theorem firstLogin_ok : (firstLogin "p" "one").1 = .ok () := by decide +kernel

theorem config?_one : (firstLogin "p" "one").2.config? = some (onlyProfile "one") :=
  config?_firstLogin firstLogin_ok

theorem secondLogin_ok : secondLogin.1 = .ok () ∧ secondLogin.2.keyring.mode = .working ∧
    (secondLogin.2.keyring.secret? ((clientOf "one").tokenEntry "p")).isSome = true := by
  have hends := logIn_ends config?_one straySurroundings "p" (bareClient "two") fiveSeconds
  have hmode : secondLogin.2.keyring.mode = .working :=
    hends.sameBeside.1.trans (firstLogin_ends "p" "one").sameBeside.1
  have hdone : secondLogin.1 = .ok () ∧
      (secondLogin.2.keyring.secret? ((clientOf "one").tokenEntry "p")).isSome = true := by
    rw [secondLogin, run_logIn config?_one]
    decide +kernel
  exact ⟨hdone.1, hmode, hdone.2⟩

theorem secondLogin_ends : LogInEnds (firstLogin "p" "one").2 (onlyProfile "one") "p"
    (clientOf "two") (.ok ()) secondLogin.2 := by
  have hends := logIn_ends config?_one straySurroundings "p" (bareClient "two") fiveSeconds
  change LogInEnds _ _ _ _ secondLogin.1 secondLogin.2 at hends
  rw [secondLogin_ok.1] at hends
  exact hends

theorem config?_two : secondLogin.2.config? = some (onlyProfile "two") :=
  secondLogin_ends.config?_of_ok config?_one

theorem homeEnvironment_directory (hdirectory : m.configDirectory = "/conf") :
    configDirectory? homeEnvironment = some m.configDirectory := by
  rw [hdirectory]
  rfl

theorem firstLogin_directory : (firstLogin "p" "one").2.configDirectory = "/conf" :=
  (logIn_ends config?_newMachine straySurroundings "p" (clientOf "one") fiveSeconds).configDirectory

theorem execute_first : ∃ a, (Command.login (requestOf "one" (some "https://idp/auth")
      (some "https://idp/token"))).execute homeEnvironment straySurroundings "/" newMachine =
    (.ok a, (firstLogin "p" "one").2) := by
  have hok : ((logIn straySurroundings "p" (clientOf "one") fiveSeconds).run.run newMachine).1 =
      .ok () := firstLogin_ok
  obtain ⟨a, h⟩ := execute_login_of_ok (homeEnvironment_directory rfl)
    (r := requestOf "one" (some "https://idp/auth") (some "https://idp/token")) rfl rfl rfl hok "/"
  exact ⟨a, h⟩

theorem execute_second : ∃ a, (Command.login (requestOf "two" none none)).execute homeEnvironment
    straySurroundings "/" (firstLogin "p" "one").2 = (.ok a, secondLogin.2) := by
  have hok : ((logIn straySurroundings "p" (bareClient "two") fiveSeconds).run.run
      (firstLogin "p" "one").2).1 = .ok () := secondLogin_ok.1
  obtain ⟨a, h⟩ := execute_login_of_ok (homeEnvironment_directory firstLogin_directory)
    (r := requestOf "two" none none) rfl rfl rfl hok "/"
  exact ⟨a, h⟩

theorem executeAll_nil (m : Machine) : executeAll environment directory m [] = ([], m) := by
  rw [executeAll]

theorem executeAll_of_cons {s : Surroundings} {command : Command}
    {rest : List (Surroundings × Command)} {answer : Except CommandError String}
    {next last : Machine} {log : List (Command × Except CommandError String)}
    (hrun : command.execute environment s directory m = (answer, next))
    (hrest : executeAll environment directory next rest = (log, last)) :
    executeAll environment directory m ((s, command) :: rest) =
      ((command, answer) :: log, last) := by
  rw [executeAll_cons hrun, hrest]

/-- The log of the two logins, both of which succeed. -/
theorem log_changedClient : ∃ a b, executeAll homeEnvironment "/" newMachine changedClient =
    ([(.login (requestOf "one" (some "https://idp/auth") (some "https://idp/token")), .ok a),
      (.login (requestOf "two" none none), .ok b)], secondLogin.2) := by
  obtain ⟨a, hfirst⟩ := execute_first
  obtain ⟨b, hsecond⟩ := execute_second
  exact ⟨a, b, executeAll_of_cons hfirst (executeAll_of_cons hsecond (executeAll_nil _))⟩

theorem ofAccount_changedClient : ∀ x ∈ changedClient, x.2.OfAccount := by
  intro x hx
  simp only [changedClient, List.mem_cons, List.not_mem_nil, or_false] at hx
  rcases hx with rfl | rfl <;> trivial

/-- The profile has the client of the second login, with the endpoints of the first. -/
theorem config?_executeAll_changedClient :
    let run := executeAll homeEnvironment "/" newMachine changedClient
    let events : List Event := [.loggedIn "p" (clientOf "one"), .loggedIn "p" (bareClient "two")]
    configDirectory? homeEnvironment = some newMachine.configDirectory ∧
      newMachine.config? = some Config.empty ∧
      (∀ x ∈ changedClient, x.2.OfAccount) ∧ Saved run.1 ∧
      ∃ c', run.2.config? = some c' ∧ c'.ledger = Config.empty.ledger.replay events ∧
        c'.profile? "p" = some (clientOf "two") ∧
        Provenance none (.ofEvents "p" events) (clientOf "two") := by
  intro run events
  obtain ⟨a, b, hrun⟩ := log_changedClient
  have hsaved : Saved run.1 := by
    intro x hx e he
    simp only [run, hrun, List.mem_cons, List.not_mem_nil, or_false] at hx
    rcases hx with rfl | rfl <;> cases he
  have hevents : eventsOf Config.empty.ledger run.1 = events := by
    simp only [run, hrun]
    rfl
  obtain ⟨c', hc', hledger, hprovenance⟩ := config?_executeAll (homeEnvironment_directory rfl)
    config?_newMachine ofAccount_changedClient hsaved
  simp only [run] at hevents
  rw [hevents] at hledger hprovenance
  have hp : c'.profile? "p" = some (clientOf "two") := by
    change c'.ledger.profile? "p" = _
    rw [hledger]
    rfl
  exact ⟨homeEnvironment_directory rfl, config?_newMachine, ofAccount_changedClient, hsaved, c',
    hc', hledger, hp, hprovenance "p" _ hp⟩

end SchemaSdk.CommandLine
