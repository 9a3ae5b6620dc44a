import SchemaSdk.Proofs.CommandLine.History

/-!
# Entries without a profile

Where a keyring works, every entry that a history of commands leaves in it belongs to a profile of
the configuration, or it was abandoned: a login to its profile went on with another client, under
which a later logout does not look for it.
-/
namespace SchemaSdk.Account

open SchemaSdk.Login

/-- An entry is that of a profile of the ledger. -/
def Ledger.Owns (l : Ledger) (entry : EntryName) : Prop :=
  ∃ name p, l.profile? name = some p ∧ p.tokenEntry name = entry

/-- An event leaves an entry behind: it is a login to the profile of the entry, for another
client. -/
def Ledger.Abandons (l : Ledger) (entry : EntryName) : Event → Prop
  | .loggedIn name requested => ∃ p, l.profile? name = some p ∧ p.tokenEntry name = entry ∧
      (requested.completed (some p)).clientId ≠ p.clientId
  | .loggedOut _ => False

/-- One of the events leaves an entry behind. -/
def Ledger.Abandoned (l : Ledger) (entry : EntryName) : List Event → Prop
  | [] => False
  | e :: events => l.Abandons entry e ∨ (l.apply e).Abandoned entry events

variable {m m' : Machine} {c : Config} {name : String} {p : Profile}

/-! ## Operations in a working keyring -/

namespace Keyring

variable {k : Keyring} {entry : EntryName} {secret : String}

theorem store_of_working (h : k.mode = .working) :
    k.store entry secret = (.ok (), (k.set entry secret).2) := by
  rw [store, named_of_working h, set_of_working h]
  rfl

theorem forget_of_working (h : k.mode = .working) : k.forget entry = (k.delete entry).2 := by
  rw [forget, named_of_working h]

end Keyring

/-- What a login leaves was there, or it is the entry of its profile, if the login succeeded. -/
theorem LogInEnds.has {answer : Except AccountError Unit} (h : LogInEnds m c name p answer m')
    (hmode : m.keyring.mode = .working)
    (hsaved : ∀ e, answer = .error e → e.isOfSaving = false) {entry : EntryName}
    (hentry : m'.keyring.Has entry) :
    m.keyring.Has entry ∨ answer = .ok () ∧ entry = p.tokenEntry name := by
  have hchecked : (m.keyring.check (p.checkEntry name)).2.mode = .working :=
    (Keyring.sameBut_check m.keyring (p.checkEntry name)).mode.trans hmode
  cases h with
  | failed e keyring runs he hkeyring =>
    rcases hkeyring with rfl | rfl | ⟨secret, e', hstore⟩
    · exact .inl hentry
    · exact .inl (hentry.of_check hmode)
    · rw [Keyring.store_of_working hchecked] at hstore
      cases hstore
  | stored t _ files keyring runs hid hendpoints hkeyring hsave =>
    rw [Keyring.store_of_working hchecked] at hkeyring
    cases hkeyring
    rcases Keyring.Has.of_set hchecked hentry with hold | hnew
    · exact .inl (hold.of_check hmode)
    · cases answer with
      | ok _ => exact .inr ⟨rfl, hnew⟩
      | error e =>
        have hsaving := hsave.saving
        rw [hsaved e rfl] at hsaving
        cases hsaving

/-- What a logout leaves was there, and it is not the entry of its profile. -/
theorem LogOutEnds.has {answer : Except AccountError String} (h : LogOutEnds m c name answer m')
    (hmode : m.keyring.mode = .working) {entry : EntryName} (hentry : m'.keyring.Has entry) :
    m.keyring.Has entry ∧ ∀ p, c.profile? name = some p → entry ≠ p.tokenEntry name := by
  cases h with
  | noProfile hp =>
    refine ⟨hentry, ?_⟩
    intro p hp'
    rw [hp] at hp'
    cases hp'
  | removed p hp answer files hsave =>
    rw [Keyring.forget_of_working hmode] at hentry
    obtain ⟨hold, hne⟩ := Keyring.Has.of_delete hmode hentry
    refine ⟨hold, ?_⟩
    intro p' hp'
    rw [hp] at hp'
    cases hp'
    exact hne

/-! ## Events and entries -/

namespace Ledger

/-- What an event leaves of the entries there were: a login adds the entry of its profile, a logout
takes it away. -/
def Leaves (l : Ledger) (had : EntryName → Prop) (entry : EntryName) : Event → Prop
  | .loggedIn name requested =>
    had entry ∨ entry = (requested.completed (l.profile? name)).tokenEntry name
  | .loggedOut name => had entry ∧ ∀ p, l.profile? name = some p → entry ≠ p.tokenEntry name

/-- If every entry had a profile or an excuse, every entry that is left has one, or the event
abandons it. -/
theorem owns_apply {l : Ledger} {had excused : EntryName → Prop} {entry : EntryName} {e : Event}
    (hhad : ∀ entry, had entry → l.Owns entry ∨ excused entry) (h : l.Leaves had entry e) :
    (l.apply e).Owns entry ∨ excused entry ∨ l.Abandons entry e := by
  cases e with
  | loggedIn name requested =>
    rcases h with h | rfl
    · rcases hhad entry h with ⟨owner, p, hp, rfl⟩ | hexcused
      · by_cases howner : owner = name
        · subst howner
          by_cases hclient : (requested.completed (some p)).clientId = p.clientId
          · refine .inl ⟨owner, requested.completed (some p), by simp [hp], ?_⟩
            rw [Profile.tokenEntry, Profile.tokenEntry, hclient]
          · exact .inr (.inr ⟨p, hp, rfl, hclient⟩)
        · exact .inl ⟨owner, p, by simp [howner, hp], rfl⟩
      · exact .inr (.inl hexcused)
    · exact .inl ⟨name, _, by simp, rfl⟩
  | loggedOut name =>
    obtain ⟨h, hne⟩ := h
    rcases hhad entry h with ⟨owner, p, hp, rfl⟩ | hexcused
    · have howner : owner ≠ name := by
        rintro rfl
        exact hne p hp rfl
      exact .inl ⟨owner, p, by simp [howner, hp], rfl⟩
    · exact .inr (.inl hexcused)

end Ledger

end SchemaSdk.Account

namespace SchemaSdk.CommandLine

open SchemaSdk.Account SchemaSdk.Login

variable {environment : Environment} {directory : String} {m : Machine} {c : Config}

theorem CommandEnds.mode {command : Command} {answer : Except CommandError String}
    {next : Machine} (h : CommandEnds m c command answer next) :
    next.keyring.mode = m.keyring.mode := by
  cases h with
  | loggedIn _ _ _ hends => exact hends.sameBeside.1
  | noLogin _ _ _ hends => exact hends.sameBeside.1
  | loggedOut _ _ _ _ hends => exact hends.sameBeside.1
  | noLogout _ _ _ hends => exact hends.sameBeside.1
  | asked _ _ _ hmode _ => exact hmode

/-- What a command about accounts leaves in a working keyring is what its event leaves, or all. -/
theorem CommandEnds.leaves {command : Command} {answer : Except CommandError String}
    {next : Machine} (h : CommandEnds m c command answer next)
    (hmode : m.keyring.mode = .working)
    (hsaved : ∀ e, answer = .error (.account e) → e.isOfSaving = false) {entry : EntryName}
    (hentry : next.keyring.Has entry) :
    match event? c.ledger.active command answer.isOk with
    | some e => c.ledger.Leaves m.keyring.Has entry e
    | none => m.keyring.Has entry := by
  cases h with
  | loggedIn r report next hends =>
    have hnoError : ∀ e, (.ok () : Except AccountError Unit) = .error e → e.isOfSaving = false := by
      intro e he
      cases he
    exact (hends.has hmode hnoError hentry).imp_right And.right
  | noLogin r e next hends =>
    have hsavedHere : ∀ e', (.error e : Except AccountError Unit) = .error e' →
        e'.isOfSaving = false := by
      intro e' he
      cases he
      exact hsaved e rfl
    rcases hends.has hmode hsavedHere hentry with hold | ⟨hok, _⟩
    · exact hold
    · cases hok
  | loggedOut name found report next hends => exact hends.has hmode hentry
  | noLogout name e next hends => exact (hends.has hmode hentry).1
  | asked name answer keyring _ hitems =>
    rw [Keyring.Has, Keyring.secret?, hitems] at hentry
    cases answer <;> exact hentry

/-- If every entry of a working keyring has a profile or an excuse, then so has every entry that
commands leave, or an event among them has abandoned it. -/
theorem owns_executeAll (henvironment : configDirectory? environment = some m.configDirectory)
    (hc : m.config? = some c) (hmode : m.keyring.mode = .working) {excused : EntryName → Prop}
    (howned : ∀ entry, m.keyring.Has entry → c.ledger.Owns entry ∨ excused entry)
    {commands : List (Surroundings × Command)} (hcommands : ∀ x ∈ commands, x.2.OfAccount)
    (hsaved : Saved (executeAll environment directory m commands).1) :
    ∃ c', (executeAll environment directory m commands).2.config? = some c' ∧
      ∀ entry, (executeAll environment directory m commands).2.keyring.Has entry →
        c'.ledger.Owns entry ∨ excused entry ∨ c.ledger.Abandoned entry
          (eventsOf c.ledger (executeAll environment directory m commands).1) := by
  induction commands generalizing m c excused with
  | nil => exact ⟨c, hc, fun entry hentry => (howned entry hentry).imp_right .inl⟩
  | cons x rest ih =>
    obtain ⟨s, command⟩ := x
    rcases hrun : command.execute environment s directory m with ⟨answer, next⟩
    rw [executeAll_cons hrun] at hsaved ⊢
    have hends := execute_ends henvironment hc s directory (hcommands _ List.mem_cons_self) hrun
    obtain ⟨c₁, hc₁, hevent⟩ := hends.config? hc (hsaved _ List.mem_cons_self)
    have hleft : ∀ entry, next.keyring.Has entry → _ :=
      fun entry => hends.leaves hmode (hsaved _ List.mem_cons_self)
    have hdirectory := hends.configDirectory
    have hmode₁ := hends.mode.trans hmode
    rw [eventsOf]
    cases he : event? c.ledger.active command answer.isOk with
    | none =>
      rw [he] at hevent hleft
      obtain rfl : c₁ = c := hevent
      exact ih (hdirectory ▸ henvironment) hc₁ hmode₁
        (fun entry hentry => howned entry (hleft entry hentry))
        (fun y hy => hcommands y (List.mem_cons_of_mem _ hy))
        (fun y hy => hsaved y (List.mem_cons_of_mem _ hy))
    | some e =>
      rw [he] at hevent hleft
      have howned₁ : ∀ entry, next.keyring.Has entry → c₁.ledger.Owns entry ∨
          excused entry ∨ c.ledger.Abandons entry e := by
        intro entry hentry
        rw [hevent.1]
        exact Ledger.owns_apply howned (hleft entry hentry)
      obtain ⟨c', hc', hlast⟩ := ih (hdirectory ▸ henvironment) hc₁ hmode₁ howned₁
        (fun y hy => hcommands y (List.mem_cons_of_mem _ hy))
        (fun y hy => hsaved y (List.mem_cons_of_mem _ hy))
      refine ⟨c', hc', ?_⟩
      intro entry hentry
      rw [hevent.1] at hlast
      rcases hlast entry hentry with h | (h | h) | h
      · exact .inl h
      · exact .inr (.inl h)
      · exact .inr (.inr (.inl h))
      · exact .inr (.inr (.inr h))

/-- If every entry of a working keyring belongs to a profile, then after commands about accounts
every entry does, or it is that of a profile which one of the logins gave another client. -/
theorem owns_or_abandoned (henvironment : configDirectory? environment = some m.configDirectory)
    (hc : m.config? = some c) (hmode : m.keyring.mode = .working)
    (howned : ∀ entry, m.keyring.Has entry → c.ledger.Owns entry)
    {commands : List (Surroundings × Command)} (hcommands : ∀ x ∈ commands, x.2.OfAccount)
    (hsaved : Saved (executeAll environment directory m commands).1) :
    let run := executeAll environment directory m commands
    ∃ c', run.2.config? = some c' ∧ ∀ entry, run.2.keyring.Has entry →
      c'.ledger.Owns entry ∨ c.ledger.Abandoned entry (eventsOf c.ledger run.1) := by
  intro run
  have hnoExcuse : ∀ entry, m.keyring.Has entry → c.ledger.Owns entry ∨ False :=
    fun entry hentry => .inl (howned entry hentry)
  obtain ⟨c', hc', hlast⟩ := owns_executeAll henvironment hc hmode hnoExcuse hcommands hsaved
  refine ⟨c', hc', ?_⟩
  intro entry hentry
  exact (hlast entry hentry).imp_right (Or.resolve_left · not_false)

/-! ### A logout after another client -/

/-- A login, another one for another client, and a logout. -/
def abandonment : List (Surroundings × Command) :=
  changedClient ++ [(straySurroundings, .logout none)]

theorem execute_third : ∃ a last, (Command.logout none).execute homeEnvironment
      straySurroundings "/" secondLogin.2 = (.ok a, last) ∧
    last.config? = some ((onlyProfile "two").removeProfile "p") ∧
    last.keyring = secondLogin.2.keyring.forget ((clientOf "two").tokenEntry "p") := by
  have hdirectory : secondLogin.2.configDirectory = "/conf" :=
    secondLogin_ends.configDirectory.trans firstLogin_directory
  have hp : (onlyProfile "two").profile? ((none : Option String).getD (onlyProfile "two").active) =
      some (clientOf "two") := by decide
  have hreliable := (firstLogin_ends "p" "one").reliable reliable_newMachine
  obtain ⟨files, hlogout⟩ :=
    run_logOut_of_saveable config?_two (secondLogin_ends.saveable hreliable) hp
  obtain ⟨a, h⟩ := execute_logout_of_ok (homeEnvironment_directory hdirectory) hlogout
    straySurroundings "/"
  have hends := logOut_ends config?_two none
  rw [hlogout] at hends
  exact ⟨a, _, h, hends.config?_of_ok config?_two, rfl⟩

/-- All of it succeeds, and the entry of the first client is left. -/
theorem executeAll_abandonment : ∃ a b c last,
    executeAll homeEnvironment "/" newMachine abandonment =
      ([(.login (requestOf "one" (some "https://idp/auth") (some "https://idp/token")), .ok a),
        (.login (requestOf "two" none none), .ok b), (.logout none, .ok c)], last) ∧
    last.config? = some ((onlyProfile "two").removeProfile "p") ∧
    last.keyring.Has ((clientOf "one").tokenEntry "p") := by
  obtain ⟨a, hfirst⟩ := execute_first
  obtain ⟨b, hsecond⟩ := execute_second
  obtain ⟨c, last, hthird, hconfig, hkeyring⟩ := execute_third
  refine ⟨a, b, c, last, executeAll_of_cons hfirst (executeAll_of_cons hsecond
    (executeAll_of_cons hthird (executeAll_nil _))), hconfig, ?_⟩
  obtain ⟨-, hmode, hone⟩ := secondLogin_ok
  have hne : (clientOf "one").tokenEntry "p" ≠ (clientOf "two").tokenEntry "p" := by decide
  rw [Keyring.Has, hkeyring, Keyring.forget_of_working hmode,
    Keyring.secret?_delete_of_working hmode, if_neg hne]
  exact hone

theorem saved_abandonment : Saved (executeAll homeEnvironment "/" newMachine abandonment).1 := by
  obtain ⟨a, b, c, last, hrun, -⟩ := executeAll_abandonment
  intro x hx e he
  simp only [hrun, List.mem_cons, List.not_mem_nil, or_false] at hx
  rcases hx with rfl | rfl | rfl <;> cases he

/-- The entry that is left is abandoned by the second login. -/
theorem owns_or_abandoned_abandonment :
    let last := (executeAll homeEnvironment "/" newMachine abandonment).2
    configDirectory? homeEnvironment = some newMachine.configDirectory ∧
      newMachine.config? = some Config.empty ∧ newMachine.keyring.mode = .working ∧
      (∀ entry, newMachine.keyring.Has entry → Config.empty.ledger.Owns entry) ∧
      (∀ x ∈ abandonment, x.2.OfAccount) ∧
      Saved (executeAll homeEnvironment "/" newMachine abandonment).1 ∧
      ∃ c', last.config? = some c' ∧ ∀ entry, last.keyring.Has entry →
        c'.ledger.Owns entry ∨ Config.empty.ledger.Abandoned entry
          [.loggedIn "p" (clientOf "one"), .loggedIn "p" (bareClient "two"), .loggedOut "p"] := by
  intro last
  have hnone : ∀ entry, newMachine.keyring.Has entry → Config.empty.ledger.Owns entry := by
    intro entry hentry
    cases hentry
  have hcommands : ∀ x ∈ abandonment, x.2.OfAccount := by
    intro x hx
    rcases List.mem_append.mp hx with hx | hx
    · exact ofAccount_changedClient x hx
    · obtain rfl := List.mem_singleton.mp hx
      trivial
  have hlast := owns_or_abandoned (homeEnvironment_directory rfl) config?_newMachine rfl hnone
    hcommands saved_abandonment
  obtain ⟨a, b, c, last', hrun, -⟩ := executeAll_abandonment
  refine ⟨homeEnvironment_directory rfl, config?_newMachine, rfl, hnone, hcommands,
    saved_abandonment, ?_⟩
  simp only [last]
  rw [hrun] at hlast ⊢
  exact hlast

/-- Every command succeeds and no profile is left, but an entry is. -/
theorem left_by_abandonment :
    let run := executeAll homeEnvironment "/" newMachine abandonment
    newMachine.config? = some Config.empty ∧ newMachine.keyring.items = [] ∧
      newMachine.keyring.mode = .working ∧
      run.1.map Prod.fst = abandonment.map Prod.snd ∧ (∀ x ∈ run.1, x.2.isOk = true) ∧
      ∃ c', run.2.config? = some c' ∧ c'.profiles = [] ∧
        run.2.keyring.Has ((clientOf "one").tokenEntry "p") := by
  intro run
  obtain ⟨a, b, c, last, hrun, hconfig, hleft⟩ := executeAll_abandonment
  simp only [run, hrun]
  refine ⟨config?_newMachine, rfl, rfl, rfl, ?_, _, hconfig, rfl, hleft⟩
  intro x hx
  simp only [List.mem_cons, List.not_mem_nil, or_false] at hx
  rcases hx with rfl | rfl | rfl <;> rfl

end SchemaSdk.CommandLine
