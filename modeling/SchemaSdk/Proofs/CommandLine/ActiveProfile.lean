import SchemaSdk.Proofs.Account.PartlySaved
import SchemaSdk.Proofs.CommandLine.History

/-!
# The active profile

Which profile is the active one is a matter of logins alone: it is that of the last one. A logout
from it leaves its name where it is, so commands that name no profile find one exactly as long as
the last login was not followed by a logout from its profile. All this is so as long as the system
does not let down the saving of a configuration, of which a part or all may be on disk then.
-/
namespace SchemaSdk.Account

/-! ## The active profile of a ledger -/

/-- The name of the profile that an event logs in to. -/
def Event.login? : Event → Option String
  | .loggedIn name _ => some name
  | .loggedOut _ => none

/-- Events are logouts from profiles other than one. -/
def LeaveOthers (name : String) (events : List Event) : Prop :=
  ∀ e ∈ events, ∃ other, other ≠ name ∧ e = .loggedOut other

/-- The last login among events is to a profile, and there has been no logout from it since. -/
def EndLoggedIn (name : String) (events : List Event) : Prop :=
  ∃ before requested after, events = before ++ .loggedIn name requested :: after ∧
    LeaveOthers name after

theorem endLoggedIn_cons_iff {name : String} {e : Event} {events : List Event} :
    EndLoggedIn name (e :: events) ↔
      (∃ requested, e = .loggedIn name requested) ∧ LeaveOthers name events ∨
        EndLoggedIn name events := by
  constructor
  · rintro ⟨before, requested, after, hevents, hafter⟩
    rcases List.cons_eq_append_iff.mp hevents with ⟨rfl, hfirst⟩ | ⟨before', rfl, hrest⟩
    · obtain ⟨rfl, rfl⟩ := List.cons.inj hfirst
      exact .inl ⟨⟨requested, rfl⟩, hafter⟩
    · exact .inr ⟨before', requested, after, hrest, hafter⟩
  · rintro (⟨⟨requested, rfl⟩, hafter⟩ | ⟨before, requested, after, rfl, hafter⟩)
    · exact ⟨[], requested, events, rfl, hafter⟩
    · exact ⟨e :: before, requested, after, rfl, hafter⟩

theorem leaveOthers_cons_iff {name : String} {e : Event} {events : List Event} :
    LeaveOthers name (e :: events) ↔
      (∃ other, other ≠ name ∧ e = .loggedOut other) ∧ LeaveOthers name events :=
  List.forall_mem_cons

namespace Ledger

theorem active_apply (l : Ledger) (e : Event) : (l.apply e).active = e.login?.getD l.active := by
  cases e <;> rfl

/-- The active profile is that of the last login. -/
theorem active_replay (l : Ledger) (events : List Event) :
    (l.replay events).active = (events.filterMap Event.login?).getLast?.getD l.active := by
  induction events generalizing l with
  | nil => rfl
  | cons e events ih =>
    rw [replay_cons, ih, active_apply, List.filterMap_cons]
    cases e.login? with
    | none => rfl
    | some name => simp [List.getLast?_cons]

theorem active_replay_of_leaveOthers (l : Ledger) {name : String} {events : List Event}
    (h : LeaveOthers name events) : (l.replay events).active = l.active := by
  have hnone : events.filterMap Event.login? = [] := by
    rw [List.filterMap_eq_nil_iff]
    intro e he
    obtain ⟨other, -, rfl⟩ := h e he
    rfl
  rw [active_replay, hnone]
  rfl

/-- After a first event and others that only leave other profiles, the active profile exists if the
first event was a login to it, or a logout from another one while it existed. -/
theorem isSome_active_apply_iff (l : Ledger) (e : Event) (events : List Event) :
    ((l.apply e).profile? (l.apply e).active).isSome = true ∧
        LeaveOthers (l.apply e).active events ↔
      (∃ requested, e = .loggedIn (l.replay (e :: events)).active requested) ∧
          LeaveOthers (l.replay (e :: events)).active events ∨
        (l.profile? l.active).isSome = true ∧ LeaveOthers l.active (e :: events) := by
  rw [replay_cons, leaveOthers_cons_iff]
  cases e with
  | loggedIn name requested =>
    constructor
    · rintro ⟨-, hothers⟩
      rw [active_replay_of_leaveOthers _ hothers]
      exact .inl ⟨⟨requested, rfl⟩, hothers⟩
    · rintro (⟨⟨_, he⟩, hothers⟩ | ⟨-, ⟨_, -, he⟩, -⟩)
      · rw [← (Event.loggedIn.inj he).1] at hothers
        exact ⟨by simp [active_apply, Event.login?], hothers⟩
      · cases he
  | loggedOut name =>
    rw [profile?_loggedOut, active_apply, Event.login?, Option.getD_none]
    constructor
    · rintro ⟨hsome, hothers⟩
      split at hsome
      · cases hsome
      · next hne => exact .inr ⟨hsome, ⟨name, Ne.symm hne, rfl⟩, hothers⟩
    · rintro (⟨⟨_, he⟩, -⟩ | ⟨hsome, ⟨_, hne, he⟩, hothers⟩)
      · cases he
      · cases he
        rw [if_neg (Ne.symm hne)]
        exact ⟨hsome, hothers⟩

/-- The active profile exists if the last login was to it and no logout from it has followed, or if
it has existed from the start and events have only left others. -/
theorem isSome_active_replay_iff (l : Ledger) (events : List Event) :
    ((l.replay events).profile? (l.replay events).active).isSome = true ↔
      EndLoggedIn (l.replay events).active events ∨
        (l.profile? l.active).isSome = true ∧ LeaveOthers l.active events := by
  induction events generalizing l with
  | nil => simp [replay, EndLoggedIn, LeaveOthers]
  | cons e events ih =>
    -- the first event is the last login, or comes before it, or no login follows at all
    rw [replay_cons, ih, isSome_active_apply_iff, endLoggedIn_cons_iff, replay_cons]
    tauto

end Ledger

/-! ## Machines without a configuration -/

variable {m : Machine} {c : Config}

/-- Where no configuration can be loaded, nothing is done that needs one. -/
theorem run_loadConfig_bind_of_none {α : Type} (h : m.config? = none) (f : Config → Session α) :
    ∃ e, (loadConfig >>= f).run.run m = (.error e, m) := by
  cases hloaded : loaded m with
  | ok c =>
    rw [config?_eq_some_iff.mpr hloaded] at h
    cases h
  | error e => exact ⟨e, by rw [run_bind, run_loadConfig, hloaded]⟩

/-! ## Profiles that are not there -/

/-- A request for a token says that there is no profile exactly if there is none. -/
theorem accessToken_noProfile_iff (hc : m.config? = some c) (name : Option String) :
    ((accessToken name).run.run m).1 = .error (.noProfile (name.getD c.active)) ↔
      c.resolve? name = none := by
  rw [accessToken, run_bind, run_loadTokens hc, Config.resolve?]
  cases c.profile? (name.getD c.active) with
  | none => simp
  | some p =>
    dsimp only
    cases m.keyring.tokens (p.tokenEntry (name.getD c.active)) <;> simp [Except.mapError]

/-- A logout says that there is no profile exactly if there is none. -/
theorem logOut_noProfile_iff (hc : m.config? = some c) (name : Option String) :
    ((logOut name).run.run m).1 = .error (.noProfile (name.getD c.active)) ↔
      c.resolve? name = none := by
  rw [run_logOut hc, Config.resolve?]
  cases c.profile? (name.getD c.active) with
  | none => simp
  | some p =>
    dsimp only
    rcases hsave : (saveConfig (c.removeProfile (name.getD c.active))).run.run
      { m with keyring := m.keyring.forget (p.tokenEntry (name.getD c.active)) } with ⟨answer, m₁⟩
    obtain ⟨files, -, hends⟩ := saveConfig_ends hsave
    refine iff_of_false ?_ (by simp)
    intro hanswer
    cases answer with
    | ok _ => cases hanswer
    | error e =>
      cases hanswer
      have hsaving := hends.saving
      cases hsaving

end SchemaSdk.Account

namespace SchemaSdk.CommandLine

open SchemaSdk.Account SchemaSdk.Login

variable {environment : Environment} {directory : String} {m : Machine} {c c' : Config}

/-! ## Commands that may fail in any way -/

/-- Where no configuration can be loaded, a command about accounts fails and changes nothing. -/
theorem execute_of_none (henvironment : configDirectory? environment = some m.configDirectory)
    (hnone : m.config? = none) (s : Surroundings) (directory : String) {command : Command}
    (hcommand : command.OfAccount) :
    ∃ e, command.execute environment s directory m = (.error e, m) := by
  cases command with
  | generate => cases hcommand
  | order => cases hcommand
  | login r =>
    obtain ⟨report, hexecute⟩ := execute_login henvironment s directory r
    obtain ⟨e, hrun⟩ : ∃ e, (logIn s r.profile r.requested
        ⟨r.callbackAddress, 1000 * r.seconds⟩).run.run m = (.error e, m) :=
      run_loadConfig_bind_of_none hnone _
    exact ⟨.account e, by rw [hexecute, hrun]; rfl⟩
  | token name =>
    obtain ⟨e, hrun⟩ : ∃ e, (loadTokens name).run.run m = (.error e, m) :=
      run_loadConfig_bind_of_none hnone _
    exact ⟨.account e, by rw [execute_token henvironment, accessToken, run_bind, hrun]; rfl⟩
  | logout name =>
    obtain ⟨report, hexecute⟩ := execute_logout henvironment s directory name
    obtain ⟨e, hrun⟩ : ∃ e, (logOut name).run.run m = (.error e, m) :=
      run_loadConfig_bind_of_none hnone _
    exact ⟨.account e, by rw [hexecute, hrun]; rfl⟩

theorem config?_executeAll_of_none
    (henvironment : configDirectory? environment = some m.configDirectory)
    (hnone : m.config? = none) {commands : List (Surroundings × Command)}
    (hcommands : ∀ x ∈ commands, x.2.OfAccount) :
    (executeAll environment directory m commands).2 = m := by
  induction commands with
  | nil => rfl
  | cons x rest ih =>
    obtain ⟨s, command⟩ := x
    obtain ⟨hcommand, hrest⟩ := List.forall_mem_cons.mp hcommands
    obtain ⟨e, hrun⟩ := execute_of_none henvironment hnone s directory hcommand
    rw [executeAll_cons hrun]
    exact ih hrest

/-- A configuration that can be loaded after a command is what its event makes of the one before,
or the one before, however the command has failed on a system that does what it should. -/
theorem CommandEnds.ledger_eq {command : Command} {answer : Except CommandError String}
    {next : Machine} (h : CommandEnds m c command answer next)
    (hfiles : m.files.Reliable ∨ ∀ e, answer = .error (.account e) → e.isOfSaving = false)
    (hc : m.config? = some c) (hnext : next.config? = some c') :
    c'.ledger = match event? c.ledger.active command answer.isOk with
      | some e => c.ledger.apply e
      | none => c.ledger := by
  cases h with
  | loggedIn r report next hends =>
    obtain rfl := Option.some.inj (hnext.symm.trans (hends.config?_of_ok hc))
    exact ledger_login c _ _
  | noLogin r e next hends =>
    have hfiles := hfiles.imp_right fun hsaved => hsaved e rfl
    obtain rfl := Option.some.inj ((hends.config?_of_failed hfiles hnext).symm.trans hc)
    rfl
  | loggedOut name found report next hends =>
    obtain rfl := Option.some.inj (hnext.symm.trans (hends.config?_of_ok hc))
    exact ledger_logout c _
  | noLogout name e next hends =>
    have hfiles := hfiles.imp_right fun hsaved => hsaved e rfl
    obtain rfl := Option.some.inj ((hends.config?_of_failed hfiles hnext).symm.trans hc)
    rfl
  | asked name answer keyring =>
    obtain rfl := Option.some.inj (hnext.symm.trans hc)
    cases answer <;> rfl

/-- A configuration that can be loaded after commands is what their events make of the one before,
however commands have failed on a system that does what it should. -/
theorem ledger_executeAll (henvironment : configDirectory? environment = some m.configDirectory)
    (hc : m.config? = some c) {commands : List (Surroundings × Command)}
    (hcommands : ∀ x ∈ commands, x.2.OfAccount)
    (hfiles : m.files.Reliable ∨ Saved (executeAll environment directory m commands).1)
    (hlast : (executeAll environment directory m commands).2.config? = some c') :
    c'.ledger = c.ledger.replay
        (eventsOf c.ledger (executeAll environment directory m commands).1) ∧
      (executeAll environment directory m commands).2.configDirectory = m.configDirectory := by
  induction commands generalizing m c with
  | nil =>
    obtain rfl := Option.some.inj (hlast.symm.trans hc)
    exact ⟨rfl, rfl⟩
  | cons x rest ih =>
    obtain ⟨s, command⟩ := x
    obtain ⟨hcommand, hrest⟩ := List.forall_mem_cons.mp hcommands
    rcases hrun : command.execute environment s directory m with ⟨answer, next⟩
    rw [executeAll_cons hrun] at hlast hfiles ⊢
    have hends := execute_ends henvironment hc s directory hcommand hrun
    have hdirectory := hends.configDirectory
    have hfirst : m.files.Reliable ∨ ∀ e, answer = .error (.account e) → e.isOfSaving = false :=
      hfiles.imp_right fun hsaved => hsaved _ List.mem_cons_self
    have hothers : next.files.Reliable ∨ Saved (executeAll environment directory next rest).1 :=
      hfiles.imp hends.reliable fun hsaved x hx => hsaved x (List.mem_cons_of_mem _ hx)
    cases hnext : next.config? with
    | none =>
      -- a configuration that cannot be loaded any more stays so
      dsimp only at hlast
      rw [config?_executeAll_of_none (hdirectory ▸ henvironment) hnext hrest, hnext] at hlast
      cases hlast
    | some c₁ =>
      obtain ⟨hledger, hdirectory'⟩ :=
        ih (hdirectory ▸ henvironment) hnext hrest hothers hlast
      refine ⟨?_, hdirectory'.trans hdirectory⟩
      rw [hledger, hends.ledger_eq hfirst hc hnext, eventsOf]
      cases event? c.ledger.active command answer.isOk <;> rfl

/-! ## Commands that name no profile -/

theorem execute_token_noProfile_iff
    (henvironment : configDirectory? environment = some m.configDirectory)
    (hc : m.config? = some c) (s : Surroundings) (directory : String) (name : Option String) :
    ((Command.token name).execute environment s directory m).1 =
      .error (.account (.noProfile (name.getD c.active))) ↔ c.resolve? name = none := by
  rw [execute_token henvironment, ← accessToken_noProfile_iff hc name]
  cases ((accessToken name).run.run m).1 <;> simp [Except.mapError]

theorem execute_logout_noProfile_iff
    (henvironment : configDirectory? environment = some m.configDirectory)
    (hc : m.config? = some c) (s : Surroundings) (directory : String) (name : Option String) :
    ((Command.logout name).execute environment s directory m).1 =
      .error (.account (.noProfile (name.getD c.active))) ↔ c.resolve? name = none := by
  obtain ⟨report, hexecute⟩ := execute_logout henvironment s directory name
  rw [hexecute, ← logOut_noProfile_iff hc name]
  rcases (logOut name).run.run m with ⟨_ | _, _⟩ <;> simp [Except.mapError, Except.map]

/-- **The active profile is that of the last login, whether it is still there or not.** After any
commands about accounts that started without a profile, and however some of them have failed,
commands that name no profile find one exactly if no logout from the profile of the last login has
followed. Otherwise they say that there is no such profile. That is so unless a configuration was
not saved on a system that does not do what it should, and may be there in part. -/
theorem active_executeAll (henvironment : configDirectory? environment = some m.configDirectory)
    (hc : m.config? = some Config.empty) {commands : List (Surroundings × Command)}
    (hcommands : ∀ x ∈ commands, x.2.OfAccount)
    (hfiles : m.files.Reliable ∨ Saved (executeAll environment directory m commands).1)
    (hlast : (executeAll environment directory m commands).2.config? = some c') :
    let run := executeAll environment directory m commands
    let events := eventsOf Config.empty.ledger run.1
    c'.active = (events.filterMap Event.login?).getLast?.getD "default" ∧
      ((c'.resolve? none).isSome = true ↔ EndLoggedIn c'.active events) ∧
      ∀ s, (((Command.token none).execute environment s directory run.2).1 =
          .error (.account (.noProfile c'.active)) ↔ ¬ EndLoggedIn c'.active events) ∧
        (((Command.logout none).execute environment s directory run.2).1 =
          .error (.account (.noProfile c'.active)) ↔ ¬ EndLoggedIn c'.active events) := by
  intro run events
  obtain ⟨hreplayed, hdirectory⟩ := ledger_executeAll henvironment hc hcommands hfiles hlast
  have hledger : c'.ledger = Config.empty.ledger.replay events := hreplayed
  have hactive : c'.active = (Config.empty.ledger.replay events).active :=
    congrArg Ledger.active hledger
  have hresolves : (c'.resolve? none).isSome = true ↔ EndLoggedIn c'.active events := by
    have hprofile : (c'.resolve? none).isSome = (c'.ledger.profile? c'.ledger.active).isSome :=
      Option.isSome_map
    have hempty : (Config.empty.ledger.profile? Config.empty.ledger.active).isSome = false := rfl
    rw [hprofile, hledger, Ledger.isSome_active_replay_iff, hempty, hactive]
    simp only [Bool.false_eq_true, false_and, or_false]
  have hunresolved : c'.resolve? none = none ↔ ¬ EndLoggedIn c'.active events := by
    rw [← hresolves, Option.isSome_iff_ne_none, not_not]
  refine ⟨hactive.trans (Ledger.active_replay _ _), hresolves, ?_⟩
  intro s
  exact ⟨(execute_token_noProfile_iff (hdirectory ▸ henvironment) hlast s directory none).trans
      hunresolved,
    (execute_logout_noProfile_iff (hdirectory ▸ henvironment) hlast s directory none).trans
      hunresolved⟩

/-! ### Two logins and a logout -/

/-- The request for a login to a profile with both endpoints given. -/
def requestTo (name : String) : LoginRequest :=
  { requestOf "c" (some "https://idp/auth") (some "https://idp/token") with profile := name }

/-- A login to one profile, one to another, and a logout. -/
def twoLoginsAnd (name : Option String) : List (Surroundings × Command) := [
  (straySurroundings, .login (requestTo "a")), (straySurroundings, .login (requestTo "b")),
  (straySurroundings, .logout name)]

/-- The login to the other profile. -/
def otherLogin : Except AccountError Unit × Machine :=
  (logIn straySurroundings "b" (clientOf "c") fiveSeconds).run.run (firstLogin "a" "c").2

/-- The configuration after both logins. -/
def bothProfiles : Config :=
  (((Config.empty.setProfile "a" (clientOf "c")).activate "a").setProfile "b"
    (clientOf "c")).activate "b"

theorem firstLogin_a : (firstLogin "a" "c").1 = .ok () := by decide +kernel

theorem otherLogin_ok : otherLogin.1 = .ok () := by
  rw [otherLogin, run_logIn (config?_firstLogin firstLogin_a)]
  decide +kernel

theorem otherLogin_ends : LogInEnds (firstLogin "a" "c").2
    ((Config.empty.setProfile "a" (clientOf "c")).activate "a") "b" (clientOf "c") (.ok ())
    otherLogin.2 := by
  have hends := logIn_ends (config?_firstLogin firstLogin_a) straySurroundings "b" (clientOf "c")
    fiveSeconds
  change LogInEnds _ _ _ _ otherLogin.1 otherLogin.2 at hends
  rw [otherLogin_ok] at hends
  exact hends

theorem config?_otherLogin : otherLogin.2.config? = some bothProfiles :=
  otherLogin_ends.config?_of_ok (config?_firstLogin firstLogin_a)

/-- All three succeed, and the profile of the logout is gone. -/
theorem executeAll_twoLoginsAnd (name : Option String)
    (hp : bothProfiles.profile? (name.getD "b") = some (clientOf "c")) : ∃ x y z last,
    executeAll homeEnvironment "/" newMachine (twoLoginsAnd name) =
      ([(.login (requestTo "a"), .ok x), (.login (requestTo "b"), .ok y), (.logout name, .ok z)],
        last) ∧
    last.config? = some (bothProfiles.removeProfile (name.getD "b")) := by
  have hfirst := (firstLogin_ends "a" "c").configDirectory
  have hother := otherLogin_ends.configDirectory.trans hfirst
  obtain ⟨x, hx⟩ := execute_login_of_ok (homeEnvironment_directory rfl) (r := requestTo "a")
    rfl rfl rfl firstLogin_a "/"
  obtain ⟨y, hy⟩ := execute_login_of_ok (homeEnvironment_directory hfirst) (r := requestTo "b")
    rfl rfl rfl otherLogin_ok "/"
  have hreliable := (firstLogin_ends "a" "c").reliable reliable_newMachine
  obtain ⟨files, hlogout⟩ :=
    run_logOut_of_saveable config?_otherLogin (otherLogin_ends.saveable hreliable) hp
  obtain ⟨z, hz⟩ := execute_logout_of_ok (homeEnvironment_directory hother) hlogout
    straySurroundings "/"
  have hends := logOut_ends config?_otherLogin name
  rw [hlogout] at hends
  exact ⟨x, y, z, _, executeAll_of_cons hx (executeAll_of_cons hy (executeAll_of_cons hz
    (executeAll_nil _))), hends.config?_of_ok config?_otherLogin⟩

/-- After a logout from the other profile by name, the active one is found. -/
theorem active_executeAll_other : ∃ c',
    configDirectory? homeEnvironment = some newMachine.configDirectory ∧
      newMachine.config? = some Config.empty ∧
      (∀ x ∈ twoLoginsAnd (some "a"), x.2.OfAccount) ∧ newMachine.files.Reliable ∧
      (executeAll homeEnvironment "/" newMachine (twoLoginsAnd (some "a"))).2.config? = some c' ∧
      c'.active = "b" ∧ (c'.resolve? none).isSome = true := by
  obtain ⟨x, y, z, last, hrun, hlast⟩ := executeAll_twoLoginsAnd (some "a") (by decide)
  have hcommands : ∀ x ∈ twoLoginsAnd (some "a"), x.2.OfAccount := by
    intro x hx
    simp only [twoLoginsAnd, List.mem_cons, List.not_mem_nil, or_false] at hx
    rcases hx with rfl | rfl | rfl <;> trivial
  have hconfig : (executeAll homeEnvironment "/" newMachine
      (twoLoginsAnd (some "a"))).2.config? = some (bothProfiles.removeProfile "a") := by
    rw [hrun]
    exact hlast
  obtain ⟨hactive, hresolves, -⟩ := active_executeAll (homeEnvironment_directory rfl)
    config?_newMachine hcommands (.inl reliable_newMachine) hconfig
  rw [hrun] at hactive hresolves
  refine ⟨_, homeEnvironment_directory rfl, config?_newMachine, hcommands, reliable_newMachine,
    hconfig, hactive, hresolves.mpr
      ⟨[.loggedIn "a" (clientOf "c")], clientOf "c", [.loggedOut "a"], rfl, ?_⟩⟩
  intro e he
  obtain rfl := List.mem_singleton.mp he
  exact ⟨"a", by decide, rfl⟩

/-- A machine that is not going to let the file of its first configuration be made private. -/
def unwillingMachine : Machine :=
  { newMachine with files := ⟨[], List.replicate 4 none ++ [some ⟨notPermitted, 0⟩]⟩ }

/-- The login there. -/
def unwillingLogin : Except AccountError Unit × Machine :=
  (logIn straySurroundings "a" (clientOf "c") fiveSeconds).run.run unwillingMachine

/-- It fails, though there is a file for the configuration now. -/
theorem unwillingLogin_seen :
    unwillingLogin.1 = .error (.unrestricted "/conf/config.toml" notPermitted) ∧
      (unwillingLogin.2.files.text? ["conf", "config.toml"]).isSome = true := by
  decide +kernel

theorem config?_unwillingLogin :
    unwillingLogin.2.config? = some ((Config.empty.setProfile "a" (clientOf "c")).activate "a") := by
  have hends := logIn_ends (m := unwillingMachine) (c := Config.empty) (by decide)
    straySurroundings "a" (clientOf "c") fiveSeconds
  change LogInEnds _ _ _ _ unwillingLogin.1 unwillingLogin.2 at hends
  obtain ⟨hanswer, hfile⟩ := unwillingLogin_seen
  rw [hanswer] at hends
  generalize unwillingLogin.2 = last at hends hfile ⊢
  cases hends with
  | failed => cases hfile
  | stored t _ files keyring runs hid hendpoints hkeyring hsave =>
    cases hsave with
    | unopened _ _ _ hsame =>
      rw [hsame.text? _ List.not_mem_nil] at hfile
      cases hfile
    | unrestricted _ _ _ _ hread =>
      have hdistinct := (Config.distinct_empty.setProfile "a" (clientOf "c")).activate "a"
      exact Machine.Keeps.config? ⟨_, hread, Config.ofText?_text _ hdistinct⟩

/-- After a logout from the active profile, its name is still that of the active one, though there
is another profile. On a system that does not do what it should, the active profile can be that of a
login that has failed. -/
theorem active_left_by_logout :
    (∃ x y z last,
      newMachine.config? = some Config.empty ∧
        executeAll homeEnvironment "/" newMachine (twoLoginsAnd none) =
          ([(.login (requestTo "a"), .ok x), (.login (requestTo "b"), .ok y),
            (.logout none, .ok z)], last) ∧
        ∃ c', last.config? = some c' ∧ c'.active = "b" ∧ c'.profile? "a" = some (clientOf "c") ∧
          c'.resolve? none = none) ∧
      ∃ e last,
        unwillingMachine.config? = some Config.empty ∧
          executeAll homeEnvironment "/" unwillingMachine
            [(straySurroundings, .login (requestTo "a"))] =
              ([(.login (requestTo "a"), .error e)], last) ∧
          ∃ c', last.config? = some c' ∧ c'.active = "a" ∧ (c'.resolve? none).isSome = true := by
  constructor
  · obtain ⟨x, y, z, last, hrun, hlast⟩ := executeAll_twoLoginsAnd none (by decide)
    exact ⟨x, y, z, last, config?_newMachine, hrun, _, hlast, by decide, by decide, by decide⟩
  · have hfailed := execute_login_of_error (homeEnvironment_directory rfl) (r := requestTo "a")
      rfl rfl rfl unwillingLogin_seen.1 "/"
    exact ⟨_, _, by decide, executeAll_of_cons hfailed (executeAll_nil _), _,
      config?_unwillingLogin, by decide, by decide⟩

end SchemaSdk.CommandLine
