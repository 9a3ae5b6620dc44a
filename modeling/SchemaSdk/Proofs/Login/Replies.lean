import Mathlib.Data.List.Infix
import SchemaSdk.Login.Provider
import SchemaSdk.Proofs.Bytes.Utf8

/-!
# What becomes of the reply to an exchange

The reply to an exchange says tokens or an error of the provider, or it is an error that carries its
body. The kind of content decides first, if the reply claims success: a reply of another kind is
refused for its kind, and then the body is lost.
-/
namespace SchemaSdk.Login

open SchemaSdk.Bytes SchemaSdk.Web

/-! ## Error responses -/

/-- Members say a text for a key, or none if the key is missing or null. -/
def SaysText (members : List (String × Json)) (key : String) : Option String → Prop
  | some s => members.lookup key = some (.string s)
  | none => members.lookup key = none ∨ members.lookup key = some .null

/-- A body is an error response: it starts with a record that has an error, and may have a
description and an address. -/
def IsErrorResponse (body : List UInt8) (error : String) (description : Option String) : Prop :=
  ∃ members,
    Json.leadingRecord? ["error", "error_description", "error_uri"] 1 (Utf8.scan body) =
      some members ∧
    SaysText members "error" (some error) ∧ SaysText members "error_description" description ∧
    ∃ uri, SaysText members "error_uri" uri

variable {members : List (String × Json)} {key : String}

theorem text?_eq_some_iff {s : String} :
    Json.text? members key = some s ↔ SaysText members key (some s) := by
  rw [Json.text?, SaysText]
  split
  case h_1 t h => simp [h]
  case h_2 h =>
    constructor
    · rintro ⟨⟩
    · exact fun hs => absurd hs (h s)

theorem optionalText?_eq_some_iff {s : Option String} :
    Json.optionalText? members key = some s ↔ SaysText members key s := by
  rw [Json.optionalText?]
  cases hlookup : members.lookup key with
  | none => cases s <;> simp [SaysText, hlookup]
  | some v => cases v <;> cases s <;> simp [SaysText, hlookup]

theorem leadingRejection?_eq_some_iff {body : List UInt8} {e : LoginError} :
    leadingRejection? body = some e ↔
      ∃ error description, e = .rejected error description ∧
        IsErrorResponse body error description := by
  simp only [leadingRejection?, rejectionKeys, Option.bind_eq_some_iff, rejection?,
    Option.bind_eq_bind, text?_eq_some_iff, optionalText?_eq_some_iff, IsErrorResponse]
  constructor
  · rintro ⟨members, hmembers, error, herror, description, hdescription, uri, huri, h⟩
    exact ⟨error, description, (Option.some.inj h).symm, members, hmembers, herror, hdescription,
      uri, huri⟩
  · rintro ⟨error, description, rfl, members, hmembers, herror, hdescription, uri, huri⟩
    exact ⟨members, hmembers, error, herror, description, hdescription, uri, huri, rfl⟩

/-- What nothing reads is passed over: half a pair of surrogates, a number out of range, and a byte
that is no character. -/
example : leadingRejection? (Utf8.encode
    "\x7b\"a\":\"\\ud800\",\"b\":1e999,\"error\":\"e\",\"c\":\"".toList ++ 0xff ::
      Utf8.encode "\"\x7d".toList) = some (.rejected "e" none) := by
  decide +kernel

/-! ## Replies by status and kind -/

variable {r : Reply}

theorem readGrant_of_status_ne (hstatus : r.status ≠ 200) (hbody : r.body ≠ []) :
    readGrant r = .error ((leadingRejection? r.body).getD (.exchange (.unexpected r.body))) := by
  rw [readGrant, if_pos hstatus, if_neg (by simpa using hbody)]
  cases leadingRejection? r.body <;> rfl

theorem readGrant_of_wrongType (hstatus : r.status = 200) {kind : String}
    (hkind : r.contentType = some kind) (hwrong : isJsonType kind = false) :
    readGrant r = .error (.exchange (.wrongContentType kind)) := by
  rw [readGrant, if_neg (not_not_intro hstatus), hkind, Option.filter_some, hwrong]
  rfl

theorem readGrant_of_json (hstatus : r.status = 200)
    (hkind : ∀ kind ∈ r.contentType, isJsonType kind = true) (hbody : r.body ≠ []) :
    readGrant r = match (leadingValue? r.body).bind Tokens.ofGrant? with
      | some t => .ok t
      | none => .error (.exchange (.unexpected r.body)) := by
  have hright : r.contentType.filter (!isJsonType ·) = none := by
    rw [Option.filter_eq_none_iff]
    intro kind hmem
    simp [hkind kind hmem]
  rw [readGrant, if_neg (not_not_intro hstatus), hright]
  exact if_neg (by simpa using hbody)

/-! ## The body -/

/-- A text carries a body if the characters of the body stand in it, replacements included. -/
def Carries (text : String) (body : List UInt8) : Prop := Utf8.decode body <:+: text.toList

/-- Outcomes of an exchange that do not lose the body of the reply: the tokens or the error that it
says, or an error whose message carries it. -/
inductive KeepsBody (r : Reply) : Except LoginError Tokens → Prop
  | tokens {t : Tokens} (hstatus : r.status = 200)
      (hgrant : (leadingValue? r.body).bind Tokens.ofGrant? = some t) : KeepsBody r (.ok t)
  | rejected {error : String} {description : Option String}
      (hresponse : IsErrorResponse r.body error description) :
      KeepsBody r (.error (.rejected error description))
  | carried {e : ExchangeError} (hmessage : Carries e.message r.body) :
      KeepsBody r (.error (.exchange e))

theorem carries_unexpected (body : List UInt8) :
    Carries (ExchangeError.unexpected body).message body := by
  have hmessage : (ExchangeError.unexpected body).message.toList =
      "unexpected response: ".toList ++ Utf8.decode body := by
    rw [← String.toList_ofList (l := Utf8.decode body), ← String.toList_append]
    rfl
  rw [Carries, hmessage]
  exact (List.suffix_append _ _).isInfix

theorem keepsBody_of_status_ne (hstatus : r.status ≠ 200) (hbody : r.body ≠ []) :
    KeepsBody r (readGrant r) := by
  rw [readGrant_of_status_ne hstatus hbody]
  cases hread : leadingRejection? r.body with
  | none => exact .carried (carries_unexpected r.body)
  | some e =>
    obtain ⟨error, description, rfl, hresponse⟩ := leadingRejection?_eq_some_iff.mp hread
    exact .rejected hresponse

theorem keepsBody_of_json (hstatus : r.status = 200)
    (hkind : ∀ kind ∈ r.contentType, isJsonType kind = true) (hbody : r.body ≠ []) :
    KeepsBody r (readGrant r) := by
  rw [readGrant_of_json hstatus hkind hbody]
  split
  case h_1 t hgrant => exact .tokens hstatus hgrant
  case h_2 => exact .carried (carries_unexpected r.body)

/-- A reply of a wrong kind keeps its body only where the message on the kind happens to have it. -/
theorem keepsBody_wrongContentType_iff {kind : String} :
    KeepsBody r (.error (.exchange (.wrongContentType kind))) ↔
      Carries (ExchangeError.wrongContentType kind).message r.body := by
  constructor
  · rintro ⟨⟩
    assumption
  · exact .carried

theorem keepsBody_readGrant_iff (hbody : r.body ≠ []) : KeepsBody r (readGrant r) ↔
    (r.status = 200 → ∀ kind ∈ r.contentType, isJsonType kind = true ∨
      Carries (ExchangeError.wrongContentType kind).message r.body) := by
  by_cases hstatus : r.status = 200
  case neg => exact ⟨fun _ h => absurd h hstatus, fun _ => keepsBody_of_status_ne hstatus hbody⟩
  cases hkind : r.contentType with
  | none =>
    have hjson : ∀ kind ∈ r.contentType, isJsonType kind = true := by simp [hkind]
    exact ⟨by simp, fun _ => keepsBody_of_json hstatus hjson hbody⟩
  | some kind =>
    cases hjson : isJsonType kind with
    | false =>
      rw [readGrant_of_wrongType hstatus hkind hjson, keepsBody_wrongContentType_iff]
      simp [hstatus, hjson]
    | true =>
      have hright : ∀ other ∈ r.contentType, isJsonType other = true := by simp [hkind, hjson]
      exact ⟨by simp [hjson], fun _ => keepsBody_of_json hstatus hright hbody⟩

/-! ## The error of the provider -/

theorem readGrant_ne_rejected (hstatus : r.status = 200) (hbody : r.body ≠ []) (error : String)
    (description : Option String) : readGrant r ≠ .error (.rejected error description) := by
  by_cases hkind : ∀ kind ∈ r.contentType, isJsonType kind = true
  · rw [readGrant_of_json hstatus hkind hbody]
    split <;> simp
  · push Not at hkind
    obtain ⟨kind, hmem, hwrong⟩ := hkind
    rw [readGrant_of_wrongType hstatus hmem (Bool.eq_false_iff.mpr hwrong)]
    simp

/-- The provider's error is what a reply other than a success says, if it is an error response. -/
theorem readGrant_eq_rejected_iff (hbody : r.body ≠ []) {error : String}
    {description : Option String} :
    readGrant r = .error (.rejected error description) ↔
      r.status ≠ 200 ∧ IsErrorResponse r.body error description := by
  by_cases hstatus : r.status = 200
  · simp [hstatus, readGrant_ne_rejected hstatus hbody]
  have hresponse : IsErrorResponse r.body error description ↔
      leadingRejection? r.body = some (.rejected error description) := by
    rw [leadingRejection?_eq_some_iff]
    constructor
    · exact fun h => ⟨error, description, rfl, h⟩
    · rintro ⟨_, _, heq, h⟩
      cases heq
      exact h
  rw [readGrant_of_status_ne hstatus hbody, hresponse]
  cases leadingRejection? r.body <;> simp [hstatus]

/-- **What an exchange keeps of a reply.** It ends with the tokens of the reply, with the error that
an error response says, or with an error that carries the body, unless the reply claims success and
is of a kind other than JSON: then the body is lost, where the message on the kind does not happen
to have it. It ends with the error of the provider exactly if an error response does not claim
success. -/
theorem Client.keepsBody_exchange_iff (c : Client) {network : Network} {code verifier : String}
    {q : Request} {r : Reply} (hsent : q ∈ (c.exchange network code verifier).1)
    (hreply : network q = some r) (hbody : r.body ≠ []) :
    (KeepsBody r (c.exchange network code verifier).2 ↔
      (r.status = 200 → ∀ kind ∈ r.contentType, isJsonType kind = true ∨
        Carries (ExchangeError.wrongContentType kind).message r.body)) ∧
    ∀ error description,
      (c.exchange network code verifier).2 = .error (.rejected error description) ↔
        r.status ≠ 200 ∧ IsErrorResponse r.body error description := by
  have hexchange : (c.exchange network code verifier).2 = readGrant r := by
    cases hsend : isSendable c.provider.tokenEndpoint with
    | true =>
      rw [c.exchange_of_isSendable network code verifier hsend] at hsent ⊢
      obtain rfl := List.mem_singleton.mp hsent
      rw [hreply, granted]
    | false =>
      obtain ⟨e, he⟩ := c.exchange_of_not_isSendable network code verifier hsend
      rw [he] at hsent
      cases hsent
  rw [hexchange]
  exact ⟨keepsBody_readGrant_iff hbody, fun _ _ => readGrant_eq_rejected_iff hbody⟩

/-! ### A page in place of an answer -/

def pagedClient : Client :=
  ⟨"sdkgen", ⟨Url.plain "https".toList (some (.name "idp".toList)) (.segments ["auth".toList]),
    Url.plain "https".toList (some (.name "idp".toList)) (.segments ["token".toList])⟩,
    "http://localhost:3000"⟩

theorem exchange_pagedClient (network : Network) (code verifier : String) :
    pagedClient.exchange network code verifier =
      ([pagedClient.exchangeRequest code verifier],
        granted (network (pagedClient.exchangeRequest code verifier))) :=
  pagedClient.exchange_of_isSendable network code verifier (by decide +kernel)

def errorReply : Reply :=
  ⟨400, some "text/html",
    Utf8.encode "\x7b\"error\":\"invalid_grant\",\"error_uri\":null\x7d later".toList⟩

/-- An error response is told as one, whatever its kind and whatever follows it. -/
theorem keepsBody_exchange_iff_errorReply :
    KeepsBody errorReply (pagedClient.exchange (fun _ => some errorReply) "c" "v").2 ∧
      (pagedClient.exchange (fun _ => some errorReply) "c" "v").2 =
        .error (.rejected "invalid_grant" none) := by
  have hbody : errorReply.body ≠ [] := by decide +kernel
  have hread : leadingRejection? errorReply.body = some (.rejected "invalid_grant" none) := by
    decide +kernel
  obtain ⟨_, _, heq, hresponse⟩ := leadingRejection?_eq_some_iff.mp hread
  cases heq
  have hsent : pagedClient.exchangeRequest "c" "v" ∈
      (pagedClient.exchange (fun _ => some errorReply) "c" "v").1 := by
    rw [exchange_pagedClient]
    exact List.mem_singleton_self _
  obtain ⟨hkeeps, hrejected⟩ := pagedClient.keepsBody_exchange_iff hsent rfl hbody
  have hstatus : errorReply.status ≠ 200 := by decide
  exact ⟨hkeeps.mpr fun h => absurd h hstatus, (hrejected _ _).mpr ⟨hstatus, hresponse⟩⟩

def pageReply : Reply := ⟨200, some "text/html", Utf8.encode "<p>busy</p>".toList⟩

/-- A page that comes with success in place of an answer is not told. -/
theorem body_lost_of_pageReply :
    pageReply.body ≠ [] ∧
      (pagedClient.exchange (fun _ => some pageReply) "c" "v").2 =
        .error (.exchange (.wrongContentType "text/html")) ∧
      ¬KeepsBody pageReply (pagedClient.exchange (fun _ => some pageReply) "c" "v").2 := by
  have hexchange : (pagedClient.exchange (fun _ => some pageReply) "c" "v").2 =
      .error (.exchange (.wrongContentType "text/html")) := by
    rw [exchange_pagedClient]
    exact readGrant_of_wrongType (r := pageReply) rfl rfl (by decide +kernel)
  refine ⟨by decide +kernel, hexchange, ?_⟩
  rw [hexchange, keepsBody_wrongContentType_iff, Carries, pageReply, Utf8.decode_encode]
  decide +kernel

end SchemaSdk.Login
