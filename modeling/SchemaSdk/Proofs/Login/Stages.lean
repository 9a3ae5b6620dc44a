import SchemaSdk.Proofs.Login.Exchange

/-!
# The states that a login passes through

A login fails before anything is handed out, or it waits for a callback, takes note of what comes,
and ends. So there are five courses that it can take, and the states tell which of them it took:
whether a URL was handed out, whether a callback came and with what, and how the login ended.
-/
namespace SchemaSdk.Login

namespace Run

/-- The callback that a run was delivered is the first one among the requests that followed when its
URL was handed out. -/
def Delivered (s : Surroundings) (r : Run) (p : CallbackParams) : Prop :=
  ∃ url, r.handedOut? = some url ∧ firstCallback? (s.visits url) = some p

/-- The courses of a login: the states of each, and what it has seen and ended with. -/
inductive Course (s : Surroundings) (r : Run) : Prop
  | early (hstates : r.states = [.failed]) (hurl : r.handedOut? = none)
      (hresult : ∃ e, r.result = .error e)
  | unanswered (hstates : r.states = [.waitingForCallback, .failed])
      (hurl : r.handedOut?.isSome) (hnone : ∀ p, ¬r.Delivered s p)
      (hresult : ∃ e, r.result = .error e)
  | refused (hstates : r.states = [.waitingForCallback, .errorReceived, .failed])
      {p : CallbackParams} (hp : r.Delivered s p) (herror : p.error.isSome)
      (hresult : ∃ e, r.result = .error e)
  | unexchanged (hstates : r.states = [.waitingForCallback, .codeReceived, .failed])
      {p : CallbackParams} (hp : r.Delivered s p) (hcode : p.error = none)
      (hresult : ∃ e, r.result = .error e)
  | exchanged (hstates : r.states = [.waitingForCallback, .codeReceived, .tokensExchanged])
      {p : CallbackParams} (hp : r.Delivered s p) (hcode : p.error = none)
      (hresult : ∃ t, r.result = .ok t)

variable {s : Surroundings} {r : Run} {p q : CallbackParams}

theorem Delivered.handedOut (h : r.Delivered s p) : r.handedOut?.isSome := by
  obtain ⟨url, hurl, -⟩ := h
  rw [hurl]
  rfl

/-- A run is delivered one callback at most. -/
theorem Delivered.unique (hp : r.Delivered s p) (hq : r.Delivered s q) : p = q := by
  obtain ⟨url, hurl, hfirst⟩ := hp
  obtain ⟨other, hother, hsecond⟩ := hq
  obtain rfl := Option.some.inj (hurl.symm.trans hother)
  exact Option.some.inj (hfirst.symm.trans hsecond)

theorem Delivered.exists_iff (hp : r.Delivered s p) {P : CallbackParams → Prop} :
    (∃ q, r.Delivered s q ∧ P q) ↔ P p := by
  constructor
  · rintro ⟨q, hq, h⟩
    rwa [hp.unique hq]
  · exact fun h => ⟨p, hp, h⟩

theorem not_delivered (hurl : r.handedOut? = none) (p : CallbackParams) : ¬r.Delivered s p := by
  intro hp
  have hsome := hp.handedOut
  rw [hurl] at hsome
  cases hsome

/-! ## What the states tell -/

namespace Course

theorem states_eq (h : r.Course s) : r.states = [.failed] ∨
    r.states = [.waitingForCallback, .failed] ∨
    r.states = [.waitingForCallback, .errorReceived, .failed] ∨
    r.states = [.waitingForCallback, .codeReceived, .failed] ∨
    r.states = [.waitingForCallback, .codeReceived, .tokensExchanged] := by
  cases h with
  | early hstates => exact .inl hstates
  | unanswered hstates => exact .inr (.inl hstates)
  | refused hstates => exact .inr (.inr (.inl hstates))
  | unexchanged hstates => exact .inr (.inr (.inr (.inl hstates)))
  | exchanged hstates => exact .inr (.inr (.inr (.inr hstates)))

theorem exchanged_iff (h : r.Course s) :
    r.states = [.waitingForCallback, .codeReceived, .tokensExchanged] ↔
      ∃ t, r.result = .ok t := by
  have hfailed : (∃ e, r.result = .error e) → ¬∃ t, r.result = .ok t := by
    rintro ⟨e, he⟩ ⟨t, ht⟩
    cases he.symm.trans ht
  cases h with
  | early hstates _ hresult => simp [hstates, hfailed hresult]
  | unanswered hstates _ _ hresult => simp [hstates, hfailed hresult]
  | refused hstates _ _ hresult => simp [hstates, hfailed hresult]
  | unexchanged hstates _ _ hresult => simp [hstates, hfailed hresult]
  | exchanged hstates _ _ hresult => simp [hstates, hresult]

theorem errorReceived_iff (h : r.Course s) :
    .errorReceived ∈ r.states ↔ ∃ p, r.Delivered s p ∧ p.error.isSome := by
  cases h with
  | early hstates hurl => simp [hstates, not_delivered hurl]
  | unanswered hstates _ hnone => simp [hstates, hnone]
  | refused hstates hp herror => simp [hstates, hp.exists_iff, herror]
  | unexchanged hstates hp hcode => simp [hstates, hp.exists_iff, hcode]
  | exchanged hstates hp hcode => simp [hstates, hp.exists_iff, hcode]

theorem codeReceived_iff (h : r.Course s) :
    .codeReceived ∈ r.states ↔ ∃ p, r.Delivered s p ∧ p.error = none := by
  cases h with
  | early hstates hurl => simp [hstates, not_delivered hurl]
  | unanswered hstates _ hnone => simp [hstates, hnone]
  | refused hstates hp herror =>
    simp [hstates, hp.exists_iff, Option.isSome_iff_ne_none.mp herror]
  | unexchanged hstates hp hcode => simp [hstates, hp.exists_iff, hcode]
  | exchanged hstates hp hcode => simp [hstates, hp.exists_iff, hcode]

theorem waiting_iff (h : r.Course s) :
    .waitingForCallback ∈ r.states ↔ r.handedOut?.isSome := by
  cases h with
  | early hstates hurl => simp [hstates, hurl]
  | unanswered hstates hurl => simp [hstates, hurl]
  | refused hstates hp => simp [hstates, hp.handedOut]
  | unexchanged hstates hp => simp [hstates, hp.handedOut]
  | exchanged hstates hp => simp [hstates, hp.handedOut]

end Course
end Run

variable {s : Surroundings} {config : LoginConfig} {c : Client}

theorem delivered_afterHandOut_iff {requests : List Web.Request} {p : CallbackParams} :
    (afterHandOut s config c requests).Delivered s p ↔
      firstCallback? (s.visits (Authorization.make c config.scopes s.random).url) = some p := by
  rw [Run.Delivered, handedOut?_afterHandOut]
  constructor
  · rintro ⟨url, hurl, hfirst⟩
    obtain rfl := Option.some.inj hurl
    exact hfirst
  · intro hfirst
    exact ⟨_, rfl, hfirst⟩

/-! ## The courses -/

/-- Nothing is accepted of a callback with an error. -/
theorem afterCallback_of_error {a : Authorization} {p : CallbackParams} (h : p.error.isSome) :
    ∃ e, (afterCallback s c a p).2 = .error e := by
  obtain ⟨error, herror⟩ := Option.isSome_iff_exists.mp h
  refine ⟨.authorization error p.errorDescription, ?_⟩
  rw [afterCallback, CallbackParams.accept, herror]

/-- A login that is delivered no callback ends without further ado. -/
theorem afterHandOut_unanswered (requests : List Web.Request)
    (h : firstCallback? (s.visits (Authorization.make c config.scopes s.random).url) = none) :
    (afterHandOut s config c requests).states = [.waitingForCallback, .failed] ∧
      ∃ e, (afterHandOut s config c requests).result = .error e := by
  dsimp only [afterHandOut, awaitCallback]
  rw [h]
  exact ⟨rfl, _, rfl⟩

/-- A login that is delivered a callback takes note of it and ends with what follows from it. -/
theorem afterHandOut_answered (requests : List Web.Request) {p : CallbackParams}
    (h : firstCallback? (s.visits (Authorization.make c config.scopes s.random).url) = some p) :
    (afterHandOut s config c requests).states = [.waitingForCallback,
        if p.error.isSome then .errorReceived else .codeReceived,
        stateOf (afterHandOut s config c requests).result] ∧
      (afterHandOut s config c requests).result =
        (afterCallback s c (Authorization.make c config.scopes s.random) p).2 := by
  dsimp only [afterHandOut, awaitCallback]
  rw [h]
  exact ⟨rfl, rfl⟩

theorem course_afterHandOut (s : Surroundings) (config : LoginConfig) (c : Client)
    (requests : List Web.Request) : (afterHandOut s config c requests).Course s := by
  cases hfirst : firstCallback? (s.visits (Authorization.make c config.scopes s.random).url) with
  | none =>
    obtain ⟨hstates, hresult⟩ := afterHandOut_unanswered requests hfirst
    refine .unanswered hstates ?_ (fun p hp => ?_) hresult
    · rw [handedOut?_afterHandOut]
      rfl
    · rw [delivered_afterHandOut_iff, hfirst] at hp
      cases hp
  | some p =>
    obtain ⟨hstates, hresult⟩ := afterHandOut_answered requests hfirst
    have hp : (afterHandOut s config c requests).Delivered s p :=
      delivered_afterHandOut_iff.mpr hfirst
    by_cases herror : p.error.isSome
    · obtain ⟨e, he⟩ := afterCallback_of_error herror
      rw [he] at hresult
      rw [if_pos herror, hresult] at hstates
      exact .refused hstates hp herror ⟨e, hresult⟩
    · rw [if_neg herror] at hstates
      rw [Option.not_isSome_iff_eq_none] at herror
      cases hend : (afterHandOut s config c requests).result with
      | error e =>
        rw [hend] at hstates
        exact .unexchanged hstates hp herror ⟨e, hend⟩
      | ok t =>
        rw [hend] at hstates
        exact .exchanged hstates hp herror ⟨t, hend⟩

/-- Every login takes one of the courses. -/
theorem LoginConfig.course_run (config : LoginConfig) (s : Surroundings) :
    (config.run s).Course s := by
  obtain ⟨requests, -, ⟨e, hrun⟩ | ⟨c, -, hrun⟩⟩ := config.run_cases s
  · rw [hrun]
    exact .early rfl rfl ⟨e, rfl⟩
  · rw [hrun]
    exact course_afterHandOut s config c requests

/-- **The states of a login.** After the first one they are those of one of five courses. They end
with the tokens exchanged exactly if the login succeeds, they tell an error exactly if the callback
that was delivered has one, and a code exactly if it has none; and the login waits exactly if its
URL was handed out. -/
theorem LoginConfig.states_run (config : LoginConfig) (s : Surroundings) :
    ((config.run s).states = [.failed] ∨
      (config.run s).states = [.waitingForCallback, .failed] ∨
      (config.run s).states = [.waitingForCallback, .errorReceived, .failed] ∨
      (config.run s).states = [.waitingForCallback, .codeReceived, .failed] ∨
      (config.run s).states = [.waitingForCallback, .codeReceived, .tokensExchanged]) ∧
    ((config.run s).states = [.waitingForCallback, .codeReceived, .tokensExchanged] ↔
      ∃ t, (config.run s).result = .ok t) ∧
    (.errorReceived ∈ (config.run s).states ↔ ∃ p, (config.run s).Delivered s p ∧ p.error.isSome) ∧
    (.codeReceived ∈ (config.run s).states ↔ ∃ p, (config.run s).Delivered s p ∧ p.error = none) ∧
    (.waitingForCallback ∈ (config.run s).states ↔ (config.run s).handedOut?.isSome) :=
  have h := config.course_run s
  ⟨h.states_eq, h.exchanged_iff, h.errorReceived_iff, h.codeReceived_iff, h.waiting_iff⟩

end SchemaSdk.Login
