import Mathlib.Logic.Function.Basic
import SchemaSdk.Proofs.Account.Outcomes

/-!
# Ledgers

A configuration amounts to the name of the active profile and the profile of each name. Logins and
logouts change it: a login makes its profile the active one and completes what is stored of it, a
logout removes its profile. So each part of a profile comes from one login, the last one that gave
this part since the profile was removed, and is never mixed from two.
-/
namespace SchemaSdk.Account

/-- The name of the active profile, and the profile of each name. -/
structure Ledger where
  active : String
  profile? : String → Option Profile

/-- The ledger of a configuration. -/
def Config.ledger (c : Config) : Ledger := ⟨c.active, c.profile?⟩

/-- A login to a profile, by what was asked of it, or a logout. -/
inductive Event where
  | loggedIn (name : String) (requested : Profile)
  | loggedOut (name : String)

namespace Ledger

/-- The ledger after an event. -/
def apply (l : Ledger) : Event → Ledger
  | .loggedIn name requested =>
    ⟨name, Function.update l.profile? name (some (requested.completed (l.profile? name)))⟩
  | .loggedOut name => { l with profile? := Function.update l.profile? name none }

@[simp] theorem profile?_loggedIn (l : Ledger) (name : String) (requested : Profile)
    (other : String) : (l.apply (.loggedIn name requested)).profile? other =
      if other = name then some (requested.completed (l.profile? name)) else l.profile? other :=
  Function.update_apply _ _ _ _

@[simp] theorem profile?_loggedOut (l : Ledger) (name other : String) :
    (l.apply (.loggedOut name)).profile? other =
      if other = name then none else l.profile? other :=
  Function.update_apply _ _ _ _

/-- The ledger after events. -/
def replay (l : Ledger) (events : List Event) : Ledger := events.foldl apply l

@[simp] theorem replay_cons (l : Ledger) (e : Event) (events : List Event) :
    l.replay (e :: events) = (l.apply e).replay events := rfl

end Ledger

theorem ledger_login (c : Config) (name : String) (requested : Profile) :
    ((c.setProfile name (requested.completed (c.profile? name))).activate name).ledger =
      c.ledger.apply (.loggedIn name requested) := by
  rw [Config.ledger, Ledger.apply, Ledger.mk.injEq]
  refine ⟨rfl, ?_⟩
  ext1 other
  simp [Function.update_apply, Config.ledger]

theorem ledger_logout (c : Config) (name : String) :
    (c.removeProfile name).ledger = c.ledger.apply (.loggedOut name) := by
  rw [Config.ledger, Ledger.apply, Ledger.mk.injEq]
  refine ⟨rfl, ?_⟩
  ext1 other
  simp [Function.update_apply, Config.ledger]

namespace Ledger

/-- A login ended with a profile that it could use. -/
def SoundAt (l : Ledger) : Event → Prop
  | .loggedIn name requested => (requested.completed (l.profile? name)).Usable
  | .loggedOut _ => True

/-- Every login among events ended with a profile that it could use. -/
def Sound (l : Ledger) : List Event → Prop
  | [] => True
  | e :: events => l.SoundAt e ∧ (l.apply e).Sound events

end Ledger

/-! ## The tale of a profile -/

/-- What events say of the profile of a name: whether it was removed, and what the logins since have
asked for, the last one first. -/
structure Tale where
  removed : Bool
  requests : List Profile

namespace Tale

/-- The tale before any event. -/
def start : Tale := ⟨false, []⟩

/-- The tale of a name with one more event. -/
def next (name : String) (t : Tale) : Event → Tale
  | .loggedIn other requested =>
    if other = name then { t with requests := requested :: t.requests } else t
  | .loggedOut other => if other = name then ⟨true, []⟩ else t

/-- The tale of a name. -/
def ofEvents (name : String) (events : List Event) : Tale := events.foldl (next name) start

/-- The profile that the logins of a tale began with. -/
def base (t : Tale) (initial : Option Profile) : Option Profile :=
  if t.removed then none else initial

/-- The profile that a tale ends with. -/
def profile? (t : Tale) (initial : Option Profile) : Option Profile :=
  t.requests.foldr (fun requested stored => some (requested.completed stored)) (t.base initial)

/-- The last login of a tale that gave something, or else the profile that the logins began
with. -/
def source? (t : Tale) (initial : Option Profile) (gives : Profile → Bool) : Option Profile :=
  (t.requests.find? gives).or (t.base initial)

/-- A part of a profile comes as a whole from the last login that gave it. -/
theorem part_of_profile? {γ : Type} {gives : Profile → Bool} {part : Profile → γ} {without : γ}
    (hpart : ∀ requested stored, part (requested.completed stored) =
      if gives requested then part requested else stored.elim without part)
    {t : Tale} {initial : Option Profile} {p : Profile} (h : t.profile? initial = some p) :
    part p = (t.source? initial gives).elim without part := by
  obtain ⟨removed, requests⟩ := t
  induction requests generalizing p with
  | nil =>
    change base ⟨removed, []⟩ initial = some p at h
    change part p = (base ⟨removed, []⟩ initial).elim without part
    rw [h]
    rfl
  | cons requested requests ih =>
    obtain rfl : requested.completed (profile? ⟨removed, requests⟩ initial) = p :=
      Option.some.inj h
    have hbase : base ⟨removed, requested :: requests⟩ initial =
        base ⟨removed, requests⟩ initial := rfl
    rw [hpart, source?, List.find?_cons, hbase]
    cases hgives : gives requested with
    | true => simp
    | false =>
      rw [if_neg (by simp)]
      cases hstored : profile? ⟨removed, requests⟩ initial with
      | some stored => exact ih hstored
      | none =>
        cases requests with
        | nil =>
          change base ⟨removed, []⟩ initial = none at hstored
          rw [hstored]
          rfl
        | cons => cases hstored

theorem profile?_next (name : String) (t : Tale) (initial : Option Profile) (l : Ledger)
    (h : l.profile? name = t.profile? initial) (e : Event) :
    (l.apply e).profile? name = (next name t e).profile? initial := by
  cases e with
  | loggedIn other requested =>
    by_cases hname : other = name
    · subst hname
      simp [next, profile?, base, h]
    · simp [next, hname, Ne.symm hname, h]
  | loggedOut other =>
    by_cases hname : other = name
    · subst hname
      simp [next, profile?, base]
    · simp [next, hname, Ne.symm hname, h]

/-- The profile of a name after events is the one that its tale ends with. -/
theorem profile?_replay (l : Ledger) (name : String) (events : List Event) :
    (l.replay events).profile? name = (ofEvents name events).profile? (l.profile? name) := by
  suffices h : ∀ (t : Tale) (l' : Ledger), l'.profile? name = t.profile? (l.profile? name) →
      (l'.replay events).profile? name =
        (events.foldl (next name) t).profile? (l.profile? name) from
    h start l rfl
  induction events with
  | nil => exact fun t l' h => h
  | cons e events ih =>
    intro t l' h
    exact ih _ _ (profile?_next name t _ l' h e)

end Tale

/-! ## Where the parts of a profile come from -/

namespace Profile

/-- Whether a request names a client. -/
def givesClientId (p : Profile) : Bool := !p.clientId.isEmpty

/-- Whether a request names scopes. -/
def givesScopes (p : Profile) : Bool := !p.scopes.isEmpty

/-- All that a profile says about endpoints. -/
def endpointTexts (p : Profile) : Option String × Option String × Option String :=
  (p.authority, p.authorizationEndpoint, p.tokenEndpoint)

theorem clientId_completed (requested : Profile) (stored : Option Profile) :
    (requested.completed stored).clientId =
      if requested.givesClientId then requested.clientId else stored.elim "" clientId := by
  cases hempty : requested.clientId.isEmpty <;> cases stored <;>
    simp_all [givesClientId, completed, completedFrom]

theorem scopes_completed (requested : Profile) (stored : Option Profile) :
    (requested.completed stored).scopes =
      if requested.givesScopes then requested.scopes else stored.elim [] scopes := by
  cases hempty : requested.scopes.isEmpty <;> cases stored <;>
    simp_all [givesScopes, completed, completedFrom]

theorem endpointTexts_completed (requested : Profile) (stored : Option Profile) :
    (requested.completed stored).endpointTexts =
      if requested.givesEndpoints then requested.endpointTexts
      else stored.elim (none, none, none) endpointTexts := by
  cases hgives : requested.givesEndpoints <;> cases stored <;>
    simp_all [endpointTexts, completed, completedFrom, givesEndpoints]

end Profile

/-- A profile that logins have touched can be used by the next one. -/
theorem usable_of_replay (l : Ledger) {events : List Event} (hsound : l.Sound events)
    {name : String} {p : Profile} (h : (l.replay events).profile? name = some p)
    (htouched : (Tale.ofEvents name events).requests ≠ []) : p.Usable := by
  suffices hinv : ∀ (t : Tale) (l' : Ledger), l'.Sound events →
      (t.requests ≠ [] → ∀ p, l'.profile? name = some p → p.Usable) →
      (events.foldl (Tale.next name) t).requests ≠ [] →
        ∀ p, (l'.replay events).profile? name = some p → p.Usable from
    hinv .start l hsound (fun hne => absurd rfl hne) htouched p h
  clear h htouched hsound
  induction events with
  | nil => exact fun t l' _ h => h
  | cons e events ih =>
    intro t l' hsound h
    cases e with
    | loggedIn other requested =>
      refine ih _ _ hsound.2 ?_
      intro hne p hp
      by_cases hname : other = name
      · subst hname
        rw [Ledger.profile?_loggedIn, if_pos rfl] at hp
        cases hp
        exact hsound.1
      · rw [Tale.next, if_neg hname] at hne
        rw [Ledger.profile?_loggedIn, if_neg (Ne.symm hname)] at hp
        exact h hne p hp
    | loggedOut other =>
      refine ih _ _ hsound.2 ?_
      intro hne p hp
      by_cases hname : other = name
      · subst hname
        rw [Ledger.profile?_loggedOut, if_pos rfl] at hp
        cases hp
      · rw [Tale.next, if_neg hname] at hne
        rw [Ledger.profile?_loggedOut, if_neg (Ne.symm hname)] at hp
        exact h hne p hp

/-- Where the parts of a profile come from: each from the last login of its tale that gave this
part, or from the profile that the logins began with. All that is said about endpoints is one part,
so that it is never mixed. Scopes alone may come from nowhere, and then there are none. -/
structure Provenance (initial : Option Profile) (t : Tale) (p : Profile) : Prop where
  clientId : ∃ source, t.source? initial Profile.givesClientId = some source ∧
    p.clientId = source.clientId
  endpoints : ∃ source, t.source? initial Profile.givesEndpoints = some source ∧
    p.endpointTexts = source.endpointTexts
  scopes : p.scopes = (t.source? initial Profile.givesScopes).elim [] Profile.scopes

theorem provenance_of_replay (l : Ledger) {events : List Event} (hsound : l.Sound events)
    {name : String} {p : Profile} (h : (l.replay events).profile? name = some p) :
    Provenance (l.profile? name) (.ofEvents name events) p := by
  have husable := usable_of_replay l hsound h
  rw [Tale.profile?_replay] at h
  have hclient := Tale.part_of_profile? Profile.clientId_completed h
  have hendpoints := Tale.part_of_profile? Profile.endpointTexts_completed h
  generalize Tale.ofEvents name events = t at h husable hclient hendpoints ⊢
  -- a profile without a login has been there from the start
  have huntouched : t.requests = [] → ∀ gives, t.source? (l.profile? name) gives = some p := by
    intro hnone gives
    rw [Tale.profile?, hnone] at h
    rw [Tale.source?, hnone]
    exact h
  refine ⟨?_, ?_, Tale.part_of_profile? Profile.scopes_completed h⟩
  · cases hsource : t.source? (l.profile? name) Profile.givesClientId with
    | some source =>
      rw [hsource] at hclient
      exact ⟨source, rfl, hclient⟩
    | none =>
      rw [hsource] at hclient
      have hp := husable fun hnone => by simp [huntouched hnone] at hsource
      have hempty := hp.clientId
      rw [hclient] at hempty
      cases hempty
  · cases hsource : t.source? (l.profile? name) Profile.givesEndpoints with
    | some source =>
      rw [hsource] at hendpoints
      exact ⟨source, rfl, hendpoints⟩
    | none =>
      rw [hsource] at hendpoints
      have hp := husable fun hnone => by simp [huntouched hnone] at hsource
      have hgives := hp.endpoints
      simp_all [Profile.endpointTexts, Profile.givesEndpoints]

end SchemaSdk.Account
