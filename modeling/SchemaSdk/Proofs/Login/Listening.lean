import Mathlib.Data.List.Induction
import SchemaSdk.Login.Callback

/-!
# The listener step by step

A listener serves requests while the login waits for it or for its time to be over. The login is
sent what the first callback says, through a sender that is in a slot: the handler of a callback
takes the sender out of the slot, and those after it find none. The slot lives as long as the
listener, which is shut down only after the login has ended, so that no sender is lost before.
However requests, the login's turns and the deadline follow one another, what the login ends with is
a matter of the requests before the deadline.
-/
namespace SchemaSdk.Login

/-! ## Events -/

/-- What happens while a login waits. A request happens when its handler, if it has one, gets the
slot; handlers get it in the order in which they ask for it, and give it back in the same step. -/
inductive ListenerEvent where
  | request (v : Visit)
  | turn
  | deadline
  deriving DecidableEq

/-- The requests among events. -/
def visitsOf (events : List ListenerEvent) : List Visit :=
  events.filterMap fun
    | .request v => some v
    | _ => none

/-- A listener and the login that waits for it: whether the sender is in its slot, what was sent and
not received, and what the login ended with. -/
structure Listener where
  hasSender : Bool
  sent : Option CallbackParams
  outcome : Option (Except LoginError CallbackParams)

namespace Listener

/-- A listener that has served no request. -/
def start : Listener := ⟨true, none, none⟩

/-- Serves a request. What is sent once the login does not wait any more is lost. -/
def serve (l : Listener) (v : Visit) : Listener :=
  match v.callback? with
  | none => l
  | some p =>
    if !l.hasSender then l
    else if l.outcome.isSome then { l with hasSender := false }
    else { l with hasSender := false, sent := some p }

/-- The login receives what was sent; if nothing was, it ends with the error that there is. -/
def receive (l : Listener) (e : Option LoginError) : Listener :=
  if l.outcome.isSome then l
  else match l.sent, e with
    | some p, _ => { l with sent := none, outcome := some (.ok p) }
    | none, some e => { l with outcome := some (.error e) }
    | none, none => l

/-- What an event makes of a listener whose login waits for so long. Even at the deadline the login
first looks for what was sent. -/
def step (milliseconds : Nat) (l : Listener) : ListenerEvent → Listener
  | .request v => l.serve v
  | .turn => l.receive none
  | .deadline => l.receive (some (.timeout milliseconds))

/-- What events make of a listener. -/
def run (milliseconds : Nat) (l : Listener) (events : List ListenerEvent) : Listener :=
  events.foldl (step milliseconds) l

variable {milliseconds : Nat} {l : Listener} {visits : List Visit}

/-! ## Before the deadline -/

/-- A listener after some requests: the sender is in its slot until the first callback among them,
and what that one says has then been sent or received. -/
def Served (l : Listener) (visits : List Visit) : Prop :=
  match firstCallback? visits with
  | none => l = start
  | some p => l = ⟨false, some p, none⟩ ∨ l = ⟨false, none, some (.ok p)⟩

theorem served_start : Served start [] := rfl

theorem firstCallback?_append (visits : List Visit) (v : Visit) :
    firstCallback? (visits ++ [v]) = (firstCallback? visits).or v.callback? := by
  rw [firstCallback?, firstCallback?, List.findSome?_append, List.findSome?_cons,
    List.findSome?_nil]
  cases v.callback? <;> rfl

/-- Only a callback takes the sender out of its slot, and only the first one. -/
theorem Served.serve (h : Served l visits) (v : Visit) : Served (l.serve v) (visits ++ [v]) := by
  rw [Served, firstCallback?_append]
  rw [Served] at h
  cases hfirst : firstCallback? visits with
  | none =>
    rw [hfirst] at h
    obtain rfl : l = start := h
    rw [Option.none_or, Listener.serve]
    cases v.callback? with
    | none => rfl
    | some p => exact .inl rfl
  | some p =>
    rw [hfirst] at h
    have hsame : l.serve v = l := by
      rw [Listener.serve]
      rcases h with rfl | rfl <;> cases v.callback? <;> rfl
    rw [Option.some_or, hsame]
    exact h

theorem Served.turn (h : Served l visits) : Served (l.receive none) visits := by
  rw [Served] at h ⊢
  cases hfirst : firstCallback? visits with
  | none =>
    rw [hfirst] at h
    obtain rfl : l = start := h
    rfl
  | some p =>
    rw [hfirst] at h
    rcases h with rfl | rfl
    · exact .inr rfl
    · exact .inr rfl

/-- Whatever happens before the deadline, the listener has served the requests so far. -/
theorem served_run {events : List ListenerEvent} (h : .deadline ∉ events) :
    Served (start.run milliseconds events) (visitsOf events) := by
  induction events using List.reverseRecOn with
  | nil => exact served_start
  | append_singleton events event ih =>
    rw [List.mem_append, not_or, List.mem_singleton] at h
    have hbefore := ih h.1
    rw [run, List.foldl_append, visitsOf, List.filterMap_append]
    cases event with
    | request v => exact hbefore.serve v
    | turn =>
      rw [List.filterMap_cons_none rfl, List.filterMap_nil, List.append_nil]
      exact hbefore.turn
    | deadline => exact absurd rfl h.2

/-! ## The deadline, and what comes after -/

/-- At the deadline a login that waits ends with what it waited for, or with its time over. -/
theorem Served.deadline (h : Served l visits) :
    (l.step milliseconds .deadline).outcome = some (awaitCallback milliseconds visits) := by
  rw [Served] at h
  rw [awaitCallback]
  cases hfirst : firstCallback? visits with
  | none =>
    rw [hfirst] at h
    obtain rfl : l = start := h
    rfl
  | some p =>
    rw [hfirst] at h
    rcases h with rfl | rfl <;> rfl

theorem receive_of_outcome (h : l.outcome.isSome = true) (e : Option LoginError) :
    l.receive e = l := by
  simp only [receive, h, if_true]

/-- What a login ended with stays. -/
theorem outcome_step {r : Except LoginError CallbackParams} (h : l.outcome = some r)
    (event : ListenerEvent) : (l.step milliseconds event).outcome = some r := by
  have hsome : l.outcome.isSome = true := by rw [h]; rfl
  cases event with
  | request v =>
    rw [step, serve]
    cases v.callback? with
    | none => exact h
    | some p =>
      dsimp only
      rw [hsome]
      split <;> exact h
  | turn => rwa [step, receive_of_outcome hsome]
  | deadline => rwa [step, receive_of_outcome hsome]

theorem outcome_run {r : Except LoginError CallbackParams} (h : l.outcome = some r)
    (events : List ListenerEvent) : (l.run milliseconds events).outcome = some r := by
  induction events generalizing l with
  | nil => exact h
  | cons event events ih => exact ih (outcome_step h event)

end Listener

/-! ## Callbacks -/

/-- A request to get the root, with a query that says something. -/
def Visit.Calls (v : Visit) (p : CallbackParams) : Prop :=
  v.target.path = ['/'] ∧ (v.method = "GET" ∨ v.method = "HEAD") ∧
    CallbackParams.ofQuery v.target.query = .ok p

theorem Visit.callback?_eq_some_iff {v : Visit} {p : CallbackParams} :
    v.callback? = some p ↔ v.Calls p := by
  rw [Visit.callback?, Visit.params?, Visit.Calls]
  by_cases hroute : v.target.path = ['/'] ∧ (v.method = "GET" ∨ v.method = "HEAD")
  · rw [if_pos (by simpa using hroute), Option.bind_some]
    cases CallbackParams.ofQuery v.target.query <;> simp [Except.toOption, hroute]
  · rw [if_neg (by simpa using hroute)]
    constructor
    · rintro ⟨⟩
    · rintro ⟨hpath, hmethod, _⟩
      exact absurd ⟨hpath, hmethod⟩ hroute

theorem Visit.callback?_eq_none {v : Visit} (h : ∀ p, ¬v.Calls p) : v.callback? = none := by
  cases hv : v.callback? with
  | none => rfl
  | some p => exact absurd (callback?_eq_some_iff.mp hv) (h p)

theorem firstCallback?_eq_none {visits : List Visit} (h : ∀ v ∈ visits, ∀ p, ¬v.Calls p) :
    firstCallback? visits = none := by
  rw [firstCallback?, List.findSome?_eq_none_iff]
  exact fun v hv => Visit.callback?_eq_none (h v hv)

theorem firstCallback?_of_split {pre post : List Visit} {v : Visit} {p : CallbackParams}
    (hpre : ∀ u ∈ pre, ∀ q, ¬u.Calls q) (hv : v.Calls p) :
    firstCallback? (pre ++ v :: post) = some p := by
  have hnone := firstCallback?_eq_none hpre
  rw [firstCallback?] at hnone ⊢
  rw [List.findSome?_append, hnone, Option.none_or, List.findSome?_cons,
    Visit.callback?_eq_some_iff.mpr hv]

/-- **What waiting for a callback ends with.** However requests, turns of the login and other events
follow one another, the login ends with what the first callback before the deadline says, and with
its time over if there is none. A request that is no callback leaves the sender in its slot, and
nothing after the deadline changes the end. -/
theorem outcome_of_deadline (milliseconds : Nat) {before : List ListenerEvent}
    (hbefore : .deadline ∉ before) (after : List ListenerEvent) :
    let ended := Listener.start.run milliseconds (before ++ .deadline :: after)
    (∀ pre v post p, visitsOf before = pre ++ v :: post → (∀ u ∈ pre, ∀ q, ¬u.Calls q) →
      v.Calls p → ended.outcome = some (.ok p)) ∧
    ((∀ v ∈ visitsOf before, ∀ p, ¬v.Calls p) →
      ended.outcome = some (.error (.timeout milliseconds))) ∧
    (∀ events, events <+: before → (∀ v ∈ visitsOf events, ∀ p, ¬v.Calls p) →
      (Listener.start.run milliseconds events).hasSender = true) ∧
    ended.outcome = some (awaitCallback milliseconds (visitsOf before)) := by
  intro ended
  have hended : ended.outcome = some (awaitCallback milliseconds (visitsOf before)) := by
    have hserved : (Listener.start.run milliseconds before).Served (visitsOf before) :=
      Listener.served_run hbefore
    have hsplit : ended = ((Listener.start.run milliseconds before).step milliseconds
        .deadline).run milliseconds after := by
      rw [Listener.run, Listener.run]
      exact List.foldl_append
    rw [hsplit]
    exact Listener.outcome_run hserved.deadline after
  refine ⟨fun pre v post p hvisits hpre hv => ?_, fun hnone => ?_, fun events hevents hnone => ?_,
    hended⟩
  · rw [hended, awaitCallback, hvisits, firstCallback?_of_split hpre hv]
  · rw [hended, awaitCallback, firstCallback?_eq_none hnone]
  · have hdeadline : .deadline ∉ events := fun hmem => hbefore (hevents.subset hmem)
    have hserved : (Listener.start.run milliseconds events).Served (visitsOf events) :=
      Listener.served_run hdeadline
    rw [Listener.Served, firstCallback?_eq_none hnone] at hserved
    rw [hserved]
    rfl

/-- Strays, a query that says a code twice, and a callback, followed by another one. -/
def strayEvents : List ListenerEvent := [
  .request ⟨"GET", ⟨"/favicon.ico".toList, []⟩⟩,
  .request ⟨"POST", ⟨['/'], "code=a".toList⟩⟩, .turn,
  .request ⟨"GET", ⟨['/'], "code=a&code=b".toList⟩⟩,
  .request ⟨"HEAD", ⟨['/'], "code=c&state=s".toList⟩⟩,
  .request ⟨"GET", ⟨['/'], "code=d".toList⟩⟩, .turn]

/-- Requests that are no callbacks do not end the waiting, and a later callback changes nothing. -/
theorem outcome_of_deadline_strayEvents :
    (Listener.start.run 5000 (strayEvents ++
        .deadline :: [.request ⟨"GET", ⟨['/'], "code=e".toList⟩⟩])).outcome =
      some (.ok ⟨some "c", some "s", none, none⟩) := by
  have hbefore : ListenerEvent.deadline ∉ strayEvents := by decide
  rw [(outcome_of_deadline 5000 hbefore [.request ⟨"GET", ⟨['/'], "code=e".toList⟩⟩]).2.2.2]
  have hfirst : firstCallback? (visitsOf strayEvents) = some ⟨some "c", some "s", none, none⟩ := by
    decide +kernel
  rw [awaitCallback, hfirst]

end SchemaSdk.Login
