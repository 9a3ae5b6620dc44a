import SchemaSdk.Login.Provider
import SchemaSdk.Proofs.Lookup
import SchemaSdk.Proofs.Web.Marks

/-!
# The URL that is handed out

A request to log in adds its pairs to the query of the authorization endpoint and leaves everything
else of it as it is. Whatever characters its values have, the query reads as the pairs of the
endpoint with those of the request after them.
-/
namespace SchemaSdk.Login

open SchemaSdk.Web

variable {id redirectUri : String} {provider : ProviderMetadata} {c : Client}

theorem isWebUrl_iff {u : Url} :
    isWebUrl u = true ↔ u.scheme ∈ [['h', 't', 't', 'p'], ['h', 't', 't', 'p', 's']] := by
  rw [isWebUrl, Bool.or_eq_true, beq_iff_eq, beq_iff_eq, List.mem_cons, List.mem_singleton]

/-- The query of a web endpoint with added pairs is where a reader of the text looks for it. -/
theorem exists_queryOf?_addPairs {u : Url} {text : String} (hparse : Url.parse text = .ok u)
    (hweb : isWebUrl u = true) (pairs : List (String × String)) :
    ∃ q, Url.queryOf? (u.addPairs pairs).text.toList = some q ∧
      Form.decode q = (u.addPairs pairs).queryPairs := by
  have hcuttable := (Url.cuttable_of_parse hparse (isWebUrl_iff.mp hweb)).addPairs pairs
  rw [Url.queryOf?_text hcuttable]
  exact ⟨_, rfl, rfl⟩

/-- **What the URL that is handed out says.** Its query reads as the pairs of the endpoint, and
after them, once each, those of the request. Scopes are one pair, joined by blanks, or none if
nothing is left of them then. All else of the URL is the endpoint's, and for endpoints in the web
the query is what stands between the marks in the text of the URL. -/
theorem Authorization.queryPairs_make (h : Client.make id provider redirectUri = .ok c)
    (scopes : List String) (random : Randomness) :
    let a := Authorization.make c scopes random
    let endpoint := provider.authorizationEndpoint
    a.url.queryPairs = endpoint.queryPairs ++
        [("response_type", "code"), ("client_id", id), ("state", a.state),
          ("code_challenge", a.key.challenge), ("code_challenge_method", "S256"),
          ("redirect_uri", redirectUri)] ++
        (if " ".intercalate scopes = "" then [] else [("scope", " ".intercalate scopes)]) ∧
      { a.url with query := endpoint.query } = endpoint ∧
      ∀ text, Url.parse text = .ok endpoint → isWebUrl endpoint = true →
        ∃ q, Url.queryOf? a.url.text.toList = some q ∧ Form.decode q = a.url.queryPairs := by
  intro a endpoint
  obtain rfl := Client.eq_of_make h
  refine ⟨?_, rfl, fun text hparse hweb => exists_queryOf?_addPairs hparse hweb _⟩
  have hpairs : a.url.queryPairs = endpoint.queryPairs ++
      Client.authorizationPairs ⟨id, provider, redirectUri⟩ a.state a.key.challenge scopes :=
    Url.queryPairs_addPairs _ _
  rw [hpairs, Client.authorizationPairs, List.append_assoc]
  simp only [challengeMethod, String.isEmpty_iff]

/-- An endpoint with pairs and a fragment of its own. -/
def tenantText : String := "https://login.example:8443/authorize?tenant=a%26b&prompt#top"

/-- What that text reads as. -/
def tenantEndpoint : Url where
  scheme := "https".toList
  username := []
  password := []
  host := some (.name "login.example".toList)
  port := some 8443
  path := .segments ["authorize".toList]
  query := some "tenant=a%26b&prompt".toList
  fragment := some "top".toList

/-- A client of that endpoint. -/
def tenantClient : Client :=
  ⟨"sdk&gen=1", ⟨tenantEndpoint, tenantEndpoint⟩, "http://localhost:3000/cb?x=1"⟩

/-- Values with separators, blanks and letters beyond ASCII stay apart from each other and from the
pairs of the endpoint. -/
theorem queryPairs_make_tenantClient :
    Client.make "sdk&gen=1" tenantClient.provider "http://localhost:3000/cb?x=1" =
        .ok tenantClient ∧
      Url.parse tenantText = .ok tenantEndpoint ∧
      ∃ q, Url.queryOf? (Authorization.make tenantClient ["a&b=c", "d+e%", "\u00e9"]
          ⟨[1, 2, 3], [4, 5, 6]⟩).url.text.toList = some q ∧
        Form.decode q = [("tenant", "a&b"), ("prompt", ""), ("response_type", "code"),
          ("client_id", "sdk&gen=1"), ("state", "AQID"),
          ("code_challenge", (ProofKey.ofRandom [4, 5, 6]).challenge),
          ("code_challenge_method", "S256"), ("redirect_uri", "http://localhost:3000/cb?x=1"),
          ("scope", "a&b=c d+e% \u00e9")] := by
  have hclient : Client.make "sdk&gen=1" tenantClient.provider "http://localhost:3000/cb?x=1" =
      .ok tenantClient := eq_ok_of_toOption (by decide +kernel)
  have hparse : Url.parse tenantText = .ok tenantEndpoint :=
    eq_ok_of_toOption (by decide +kernel)
  obtain ⟨hpairs, -, hquery⟩ := Authorization.queryPairs_make hclient
    ["a&b=c", "d+e%", "\u00e9"] ⟨[1, 2, 3], [4, 5, 6]⟩
  obtain ⟨q, hq, hdecode⟩ := hquery tenantText hparse (by decide)
  have hown : tenantEndpoint.queryPairs = [("tenant", "a&b"), ("prompt", "")] := by
    decide +kernel
  have hstate : String.ofList (Bytes.Base64Url.encode [1, 2, 3]) = "AQID" := by decide +kernel
  refine ⟨hclient, hparse, q, hq, ?_⟩
  rw [hdecode, hpairs, show tenantClient.provider.authorizationEndpoint = tenantEndpoint from rfl,
    hown, Authorization.make, hstate]
  rfl

end SchemaSdk.Login
