import SchemaSdk.Login.Tokens
import SchemaSdk.Proofs.Json.ReadBack

/-!
# Tokens read back

Tokens are kept as text. The text says the same tokens again, whatever strings they are made of and
whichever of them are missing.
-/
namespace SchemaSdk.Login.Tokens

/-- Whether the lifetime of tokens, if they have one, is a number of 64 bits. -/
def Fits (t : Tokens) : Prop := ∀ n ∈ t.expiresIn, n < Text.wordBound

variable {t : Tokens}

theorem plain_ofString? (s : Option String) : (Json.ofString? s).Plain := by
  cases s with
  | none => exact .null
  | some s => exact .string s

theorem plain_toJson (t : Tokens) : t.toJson.Plain := by
  refine .object _ fun m hm => ?_
  simp only [List.mem_cons, List.not_mem_nil, or_false] at hm
  rcases hm with rfl | rfl | rfl | rfl | rfl
  · exact .string _
  · exact plain_ofString? _
  · cases t.expiresIn with
    | none => exact .null
    | some n => exact .ofNat n
  · exact plain_ofString? _
  · exact plain_ofString? _

/-! ## Members -/

section Members

variable {members : List (String × Json)} {key : String}

theorem optionalText?_of_lookup {s : Option String}
    (h : members.lookup key = some (.ofString? s)) : Json.optionalText? members key = some s := by
  rw [Json.optionalText?, h]
  cases s <;> rfl

theorem optionalNatural?_of_lookup {n : Option Nat}
    (h : members.lookup key = some (match n with
      | some k => .ofNat k
      | none => .null))
    (hn : ∀ k ∈ n, k < Text.wordBound) : Json.optionalNatural? members key = some n := by
  rw [Json.optionalNatural?, h]
  cases n with
  | none => rfl
  | some k => exact congrArg (Option.map some) (Json.natural?_toDigits (hn k rfl))

end Members

/-! ## Tokens -/

/-- The members of tokens as a value, which have the keys of tokens in their order. -/
theorem exists_members (t : Tokens) : ∃ members, t.toJson = .object members ∧
    members.map (·.1) = keys ∧ (t.Fits → ofMembers? members = some t) := by
  refine ⟨_, rfl, rfl, fun h => ?_⟩
  rw [ofMembers?, optionalText?_of_lookup (s := t.tokenType) rfl,
    optionalText?_of_lookup (s := t.refreshToken) rfl,
    optionalText?_of_lookup (s := t.scope) rfl,
    optionalNatural?_of_lookup (n := t.expiresIn) rfl h]
  rfl

/-- The text of tokens says them again. -/
theorem ofText?_text (h : t.Fits) : ofText? t.text = some t := by
  obtain ⟨members, hjson, hkeys, hmembers⟩ := t.exists_members
  have hplain := plain_toJson t
  have hknown : ∀ m ∈ members, m.1 ∈ keys := fun m hm => hkeys ▸ List.mem_map_of_mem hm
  have hnodup : (members.map (·.1)).Nodup := by
    rw [hkeys]
    decide
  rw [hjson] at hplain
  rw [ofText?, text, hjson, hplain.wholeRecord?_text hknown hnodup, Option.bind_some, hmembers h]

end SchemaSdk.Login.Tokens
