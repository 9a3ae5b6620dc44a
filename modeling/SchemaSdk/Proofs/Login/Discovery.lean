import SchemaSdk.Proofs.Login.HandedOut
import SchemaSdk.Proofs.Web.Addresses

/-!
# Where endpoints are asked for

An authority is asked for its endpoints below its own path. A slash ends the path before anything is
joined to it, so that no segment is lost; a query and a fragment are left out. Nothing is asked
where no request can be sent, as to a host with a quote in its name.
-/
namespace SchemaSdk.Login

open SchemaSdk.Web

variable {u : Url} {text : String}

theorem isSendable_iff_of_normal (h : u.Normal) : isSendable u = true ↔
    u.text.utf8ByteSize ≤ Uri.maxBytes ∧
      ∀ name, u.host = some (.name name) → ∀ c ∈ name, Uri.inAuthority c = true := by
  rw [isSendable, isWebUrl_iff.mpr h.scheme, Bool.true_and, Uri.isOk_check_text_iff h]

/-- A request can be sent to any URL of the web that was read, if it is not too long and has no sign
in the name of its host that an authority may not have. -/
theorem isSendable_iff_of_parse (hparse : Url.parse text = .ok u) (hweb : isWebUrl u = true) :
    isSendable u = true ↔ u.text.utf8ByteSize ≤ Uri.maxBytes ∧
      ∀ name, u.host = some (.name name) → ∀ c ∈ name, Uri.inAuthority c = true :=
  isSendable_iff_of_normal (Url.normal_of_parse hparse (isWebUrl_iff.mp hweb))

/-- An authority with an empty segment, a blank, a query and a fragment. -/
def directory : Url where
  scheme := "https".toList
  username := []
  password := []
  host := some (.name "idp.example.com".toList)
  port := some 8443
  path := .segments ["tenants".toList, [], "a%20b".toList]
  query := some "x=1".toList
  fragment := some "top".toList

end SchemaSdk.Login
