import SchemaSdk.Login.Flow
import SchemaSdk.Proofs.Lookup
import SchemaSdk.Proofs.Web.Form

/-!
# What a login sends

A code is only exchanged if the callback that brought it answers the request that was handed out.
Then it is exchanged once, with the verifier behind that request's challenge, unless nothing can be
sent to the endpoint for tokens: then the login fails without a request. A login that succeeds has
the tokens of the reply to the exchange.
-/
namespace SchemaSdk.Login

open SchemaSdk.Web

/-! ## What is seen of a run -/

/-- The last value of a key in the query of a URL, which is the one that a login has added. -/
def lastValue? (u : Url) (key : String) : Option String := u.queryPairs.reverse.lookup key

/-- The values of a key in a form. -/
def valuesOf (key : String) (form : List (String × String)) : List String :=
  (form.filter (·.1 == key)).map (·.2)

/-- The form that a request sends, if it sends one. -/
def formOf? (q : Request) : Option (List (String × String)) :=
  match q.action with
  | .get => none
  | .post form => some form

/-- The requests for tokens among requests, which are those that send a form. -/
def tokenRequestsOf (requests : List Request) : List Request :=
  requests.filter fun q => (formOf? q).isSome

namespace Run

/-- The URL that was handed out. -/
def handedOut? (r : Run) : Option Url := r.authorization.map (·.url)

/-- The requests for tokens that a run has made. -/
def tokenRequests (r : Run) : List Request := tokenRequestsOf r.requests

/-- The first callback after the URL was handed out carries the code, no error, and the state of
the URL. -/
def Answered (s : Surroundings) (r : Run) (code : String) : Prop :=
  ∃ url p, r.handedOut? = some url ∧ firstCallback? (s.visits url) = some p ∧ p.error = none ∧
    p.state.isSome ∧ p.state = lastValue? url "state" ∧ p.code = some code

end Run

/-! ## The request that is handed out -/

variable {s : Surroundings} {config : LoginConfig} {c : Client}

theorem lastValue?_addPairs {u : Url} {pairs : List (String × String)} {key value : String}
    (h : pairs.reverse.lookup key = some value) : lastValue? (u.addPairs pairs) key = some value := by
  rw [lastValue?, Url.queryPairs_addPairs, List.reverse_append, List.lookup_append, h]
  rfl

theorem lookup_authorizationPairs (c : Client) (state challenge : String) (scopes : List String) :
    (c.authorizationPairs state challenge scopes).reverse.lookup "state" = some state ∧
      (c.authorizationPairs state challenge scopes).reverse.lookup "code_challenge" =
        some challenge := by
  unfold Client.authorizationPairs
  dsimp only
  split
  · exact ⟨rfl, rfl⟩
  · exact ⟨rfl, rfl⟩

/-- The URL that is handed out has the state of its request and the challenge for its verifier. -/
theorem lastValue?_authorization (c : Client) (scopes : List String) (random : Randomness) :
    lastValue? (Authorization.make c scopes random).url "state" =
        some (Authorization.make c scopes random).state ∧
      lastValue? (Authorization.make c scopes random).url "code_challenge" =
        some (challengeOf (Authorization.make c scopes random).key.verifier) :=
  ⟨lastValue?_addPairs (lookup_authorizationPairs c _ _ scopes).1,
    lastValue?_addPairs (lookup_authorizationPairs c _ _ scopes).2⟩

/-! ## How a run goes -/

theorem CallbackParams.accept_eq_ok_iff {p : CallbackParams} {state code : String} :
    p.accept state = .ok code ↔ p.error = none ∧ p.state = some state ∧ p.code = some code := by
  unfold accept
  cases p.error with
  | some e => simp
  | none =>
    by_cases hstate : p.state = some state
    · cases p.code <;> simp [hstate]
    · simp [hstate]

theorem formOf?_of_mem_resolve {network : Network} {e : Endpoints} {q : Request}
    (h : q ∈ (e.resolve network).1) : formOf? q = none := by
  cases e with
  | given authorization token => cases h
  | discover authority =>
    simp only [Endpoints.resolve, Login.discover] at h
    split at h
    · cases h
    split at h
    · cases h
    · rw [List.mem_singleton.mp h]
      rfl

/-- A run fails before anything is handed out, or goes on from there with the endpoints it has
found; before, nothing but these has been asked for. -/
theorem LoginConfig.run_cases (config : LoginConfig) (s : Surroundings) :
    ∃ requests, (∀ q ∈ requests, formOf? q = none) ∧
      ((∃ e, config.run s = Run.failedEarly requests e) ∨
        ∃ c, (config.endpoints.resolve s.network).2 = .ok c.provider ∧
          config.run s = afterHandOut s config c requests) := by
  refine ⟨(config.endpoints.resolve s.network).1, fun q hq => formOf?_of_mem_resolve hq, ?_⟩
  unfold run
  split
  case h_1 requests e hresolve =>
    rw [hresolve]
    exact Or.inl ⟨e, rfl⟩
  case h_2 requests provider hresolve =>
    rw [hresolve]
    split
    · exact Or.inl ⟨_, rfl⟩
    split
    · exact Or.inl ⟨_, rfl⟩
    case h_2 c hmake =>
      refine Or.inr ⟨c, ?_, rfl⟩
      rw [Client.eq_of_make hmake]

/-! ## The exchange -/

theorem tokenRequestsOf_eq_nil {requests : List Request} (h : ∀ q ∈ requests, formOf? q = none) :
    tokenRequestsOf requests = [] := by
  rw [tokenRequestsOf, List.filter_eq_nil_iff]
  intro q hq
  simp [h q hq]

theorem tokenRequestsOf_append {requests : List Request} (h : ∀ q ∈ requests, formOf? q = none)
    (more : List Request) : tokenRequestsOf (requests ++ more) = tokenRequestsOf more := by
  have hnone := tokenRequestsOf_eq_nil h
  rw [tokenRequestsOf] at hnone ⊢
  rw [List.filter_append, hnone, List.nil_append]
  rfl

theorem handedOut?_afterHandOut (s : Surroundings) (config : LoginConfig) (c : Client)
    (requests : List Request) : (afterHandOut s config c requests).handedOut? =
      some (Authorization.make c config.scopes s.random).url := by
  unfold afterHandOut
  dsimp only
  split <;> rfl

/-- The run is answered by a code if that is what is accepted of the first callback. -/
theorem answered_afterHandOut_iff {requests : List Request} {code : String} :
    (afterHandOut s config c requests).Answered s code ↔
      ∃ p, firstCallback? (s.visits (Authorization.make c config.scopes s.random).url) = some p ∧
        p.accept (Authorization.make c config.scopes s.random).state = .ok code := by
  have hurl := handedOut?_afterHandOut s config c requests
  have hstate := (lastValue?_authorization c config.scopes s.random).1
  simp only [CallbackParams.accept_eq_ok_iff]
  constructor
  · rintro ⟨url, p, hhanded, hfirst, herror, -, hp, hcode⟩
    obtain rfl : (Authorization.make c config.scopes s.random).url = url :=
      Option.some.inj (hurl.symm.trans hhanded)
    exact ⟨p, hfirst, herror, hp.trans hstate, hcode⟩
  · rintro ⟨p, hfirst, herror, hp, hcode⟩
    refine ⟨_, p, hurl, hfirst, herror, ?_, hp.trans hstate.symm, hcode⟩
    rw [hp]
    rfl

theorem tokenRequestsOf_exchange (c : Client) (network : Network) (code verifier : String) :
    tokenRequestsOf (c.exchange network code verifier).1 =
      (c.exchange network code verifier).1 := by
  cases h : isSendable c.provider.tokenEndpoint with
  | true =>
    rw [c.exchange_of_isSendable network code verifier h]
    rfl
  | false =>
    obtain ⟨e, he⟩ := c.exchange_of_not_isSendable network code verifier h
    rw [he]
    rfl

/-- After the URL was handed out there either is no answer, no exchange and no success, or one
answer, whose code is exchanged. -/
theorem afterHandOut_cases (s : Surroundings) (config : LoginConfig) (c : Client)
    {requests : List Request} (hrequests : ∀ q ∈ requests, formOf? q = none) :
    ((∀ code, ¬ (afterHandOut s config c requests).Answered s code) ∧
        (afterHandOut s config c requests).tokenRequests = [] ∧
        ∃ e, (afterHandOut s config c requests).result = .error e) ∨
      ∃ code, (∀ other, (afterHandOut s config c requests).Answered s other ↔ other = code) ∧
        ((afterHandOut s config c requests).tokenRequests,
            (afterHandOut s config c requests).result) =
          c.exchange s.network code (Authorization.make c config.scopes s.random).key.verifier := by
  simp only [answered_afterHandOut_iff]
  unfold afterHandOut awaitCallback
  dsimp only
  cases hfirst : firstCallback? (s.visits (Authorization.make c config.scopes s.random).url) with
  | none =>
    refine Or.inl ⟨?_, ?_, _, rfl⟩
    · rintro code ⟨p, hp, -⟩
      cases hp
    · exact tokenRequestsOf_eq_nil hrequests
  | some p =>
    cases haccept : p.accept (Authorization.make c config.scopes s.random).state with
    | error e =>
      refine Or.inl ⟨?_, ?_, e, ?_⟩
      · rintro code ⟨q, hq, hcode⟩
        obtain rfl := Option.some.inj hq
        rw [haccept] at hcode
        cases hcode
      · simp only [Run.tokenRequests, afterCallback, haccept, List.append_nil]
        exact tokenRequestsOf_eq_nil hrequests
      · simp only [afterCallback, haccept]
    | ok code =>
      refine Or.inr ⟨code, fun other => ?_, ?_⟩
      · constructor
        · rintro ⟨q, hq, hcode⟩
          obtain rfl := Option.some.inj hq
          rw [haccept] at hcode
          exact (Except.ok.inj hcode).symm
        · rintro rfl
          exact ⟨p, rfl, haccept⟩
      · simp only [Run.tokenRequests, afterCallback, haccept]
        rw [tokenRequestsOf_append hrequests, tokenRequestsOf_exchange]

theorem granted_eq_ok_iff {reply : Option Reply} {t : Tokens} :
    granted reply = .ok t ↔ ∃ r, reply = some r ∧ readGrant r = .ok t := by
  cases reply with
  | none => simp [granted]
  | some r => simp [granted]

/-- An exchange that succeeds has made its request, and has the tokens of the reply. -/
theorem exchange_eq_ok {network : Network} {code verifier : String} {t : Tokens}
    (h : (c.exchange network code verifier).2 = .ok t) :
    ∃ q ∈ (c.exchange network code verifier).1,
      ∃ reply, network q = some reply ∧ readGrant reply = .ok t := by
  cases hsend : isSendable c.provider.tokenEndpoint with
  | true =>
    rw [c.exchange_of_isSendable network code verifier hsend] at h ⊢
    exact ⟨_, List.mem_singleton_self _, granted_eq_ok_iff.mp h⟩
  | false =>
    obtain ⟨e, he⟩ := c.exchange_of_not_isSendable network code verifier hsend
    rw [he] at h
    cases h

/-- **What a login exchanges.** It asks for tokens only if the first callback answers the URL that
was handed out. Then it asks the provider's endpoint for tokens once, with the code of the callback
and a verifier whose challenge is the one in the URL; where nothing can be sent there it asks for
none and fails. If it succeeds, then with the tokens of the reply. -/
theorem LoginConfig.tokenRequests_run (config : LoginConfig) (s : Surroundings) :
    (∀ q ∈ (config.run s).tokenRequests, ∃ code, (config.run s).Answered s code) ∧
      (∀ code, (config.run s).Answered s code → ∃ url provider,
        (config.run s).handedOut? = some url ∧
        (config.endpoints.resolve s.network).2 = .ok provider ∧
        (isSendable provider.tokenEndpoint = true → ∃ q form verifier,
          (config.run s).tokenRequests = [q] ∧ q.url = provider.tokenEndpoint ∧
            formOf? q = some form ∧ valuesOf "code" form = [code] ∧
            valuesOf "code_verifier" form = [verifier] ∧
            lastValue? url "code_challenge" = some (challengeOf verifier)) ∧
        (isSendable provider.tokenEndpoint = false →
          (config.run s).tokenRequests = [] ∧
            ∃ e, (config.run s).result = .error (.exchange e))) ∧
      ∀ t, (config.run s).result = .ok t → ∃ q ∈ (config.run s).tokenRequests,
        ∃ reply, s.network q = some reply ∧ readGrant reply = .ok t := by
  obtain ⟨requests, hrequests, ⟨e, hrun⟩ | ⟨c, hprovider, hrun⟩⟩ := config.run_cases s
  · have hnone : (config.run s).tokenRequests = [] := by
      rw [hrun]
      exact tokenRequestsOf_eq_nil hrequests
    rw [hnone, hrun]
    refine ⟨by simp, ?_, ?_⟩
    · rintro code ⟨url, p, hhanded, -⟩
      cases hhanded
    · intro t ht
      cases ht
  obtain ⟨hanswered, htokens, e, hresult⟩ | ⟨code, hanswered, hexchange⟩ :=
    afterHandOut_cases s config c hrequests
  · rw [hrun, htokens, hresult]
    refine ⟨by simp, fun code hcode => absurd hcode (hanswered code), ?_⟩
    intro t ht
    cases ht
  · have hone := congrArg Prod.fst hexchange
    have hend := congrArg Prod.snd hexchange
    dsimp only at hone hend
    rw [hrun, hone, hend]
    refine ⟨fun q _ => ⟨code, (hanswered code).mpr rfl⟩, ?_, fun t ht => exchange_eq_ok ht⟩
    rintro other hother
    obtain rfl := (hanswered other).mp hother
    refine ⟨_, c.provider, handedOut?_afterHandOut s config c requests, hprovider,
      fun hsend => ?_, fun hsend => ?_⟩
    · rw [c.exchange_of_isSendable _ _ _ hsend]
      exact ⟨_, _, _, rfl, rfl, rfl, rfl, rfl,
        (lastValue?_authorization c config.scopes s.random).2⟩
    · obtain ⟨e, he⟩ := c.exchange_of_not_isSendable s.network other
        (Authorization.make c config.scopes s.random).key.verifier hsend
      rw [he]
      exact ⟨rfl, e, rfl⟩

/-! ### A login among stray requests -/

/-- A login whose browser asks for an icon first and for the callback twice, with an endpoint for
tokens. -/
def strayLoginAt (token : Url) : LoginConfig :=
  .new (.given (Url.plain "https".toList (some (.name "idp".toList)) (.segments ["auth".toList]))
    token) "sdkgen"

def strayLogin : LoginConfig :=
  strayLoginAt
    (Url.plain "https".toList (some (.name "idp".toList)) (.segments ["token".toList]))

def strayReply : Reply :=
  ⟨200, some "application/json",
    Bytes.Utf8.encode "\x7b\"access_token\":\"t1\",\"token_type\":\"Bearer\"\x7d".toList⟩

def straySurroundings : Surroundings where
  network := fun _ => some strayReply
  bind := fun _ port => .ok port
  visits := fun _ => [⟨"GET", ⟨"/favicon.ico".toList, []⟩⟩,
    ⟨"GET", ⟨['/'], "code=c%201&state=AQID".toList⟩⟩,
    ⟨"GET", ⟨['/'], "code=c2&state=AQID".toList⟩⟩]
  random := ⟨[1, 2, 3], [4, 5, 6]⟩

/-- Stray requests do not keep a login from exchanging the code of its callback. -/
theorem tokenRequests_run_strayLogin :
    (strayLogin.run straySurroundings).Answered straySurroundings "c 1" ∧
      ∃ q ∈ (strayLogin.run straySurroundings).tokenRequests, ∃ reply,
        straySurroundings.network q = some reply ∧
          readGrant reply = .ok ⟨"t1", some "bearer", none, none, none⟩ := by
  have hgranted : (strayLogin.run straySurroundings).result =
      .ok ⟨"t1", some "bearer", none, none, none⟩ := eq_ok_of_toOption (by decide +kernel)
  have hforms : (strayLogin.run straySurroundings).tokenRequests.map
      (fun q => (formOf? q).map (valuesOf "code")) = [some ["c 1"]] := by decide +kernel
  have hsend : ((strayLogin.endpoints.resolve straySurroundings.network).2.toOption.all
      fun provider => isSendable provider.tokenEndpoint) = true := by decide +kernel
  obtain ⟨hsent, hexchanged, hok⟩ := strayLogin.tokenRequests_run straySurroundings
  obtain ⟨q, hq, reply, hreply, hgrant⟩ := hok _ hgranted
  obtain ⟨code, hcode⟩ := hsent q hq
  obtain ⟨_, provider, _, hprovider, hone, _⟩ := hexchanged code hcode
  rw [hprovider] at hsend
  obtain ⟨r, form, _, hr, _, hform, hvalues, _⟩ := hone hsend
  rw [hr, List.map_singleton, hform, Option.map_some, hvalues] at hforms
  obtain rfl : code = "c 1" := by simpa using hforms
  exact ⟨hcode, q, hq, reply, hreply, hgrant⟩

/-- An endpoint at which files are transferred. -/
def fileEndpoint : Url :=
  .plain "ftp".toList (some (.name "idp".toList)) (.segments ["token".toList])

/-- An endpoint of the web at a host with a quote. -/
def quotedEndpoint : Url :=
  .plain "http".toList (some (.name ['i', '"'])) (.segments ["token".toList])

/-- No request for tokens is sent to either of them, although the callback has answered. -/
theorem tokenRequests_unsendable :
    Url.parse "ftp://idp/token" = .ok fileEndpoint ∧
      Url.parse "http://i\"/token" = .ok quotedEndpoint ∧
      ∀ endpoint ∈ [fileEndpoint, quotedEndpoint],
        ((strayLoginAt endpoint).run straySurroundings).Answered straySurroundings "c 1" ∧
          ((strayLoginAt endpoint).run straySurroundings).tokenRequests = [] := by
  have hseen : ∀ endpoint ∈ [fileEndpoint, quotedEndpoint],
      ((strayLoginAt endpoint).run straySurroundings).handedOut?.any (fun url =>
        firstCallback? (straySurroundings.visits url) =
            some ⟨some "c 1", some "AQID", none, none⟩ ∧
          lastValue? url "state" = some "AQID") = true ∧
      ((strayLoginAt endpoint).run straySurroundings).tokenRequests = [] := by
    decide +kernel
  refine ⟨eq_ok_of_toOption (by decide +kernel), eq_ok_of_toOption (by decide +kernel),
    fun endpoint hmem => ?_⟩
  obtain ⟨hany, hnone⟩ := hseen endpoint hmem
  obtain ⟨url, hurl, hcallback⟩ := (Option.any_eq_true ..).mp hany
  obtain ⟨hfirst, hstate⟩ := of_decide_eq_true hcallback
  exact ⟨⟨url, _, hurl, hfirst, rfl, rfl, hstate.symm, rfl⟩, hnone⟩

end SchemaSdk.Login
