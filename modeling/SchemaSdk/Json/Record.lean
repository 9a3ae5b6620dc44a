import SchemaSdk.Json.Value
import SchemaSdk.Text.Digits

/-!
# Records in JSON

Objects read as records with known keys. Other keys do not matter, and a known key comes once at
most.
-/
namespace SchemaSdk.Json

/-- A record with known keys, as its members. -/
def record? (keys : List String) : Json → Option (List (String × Json))
  | object members =>
    let known := members.filter (keys.contains ·.1)
    if (known.map (·.1)).Nodup then some known else none
  | _ => none

/-- The string of a key. -/
def text? (members : List (String × Json)) (key : String) : Option String :=
  match members.lookup key with
  | some (string s) => some s
  | _ => none

/-- The string of a key that may be missing or null. -/
def optionalText? (members : List (String × Json)) (key : String) : Option (Option String) :=
  match members.lookup key with
  | none => some none
  | some null => some none
  | some (string s) => some (some s)
  | some _ => none

/-- The natural number of 64 bits that digits denote. -/
def natural? (digits : List Char) : Option Nat :=
  (Text.numberIn? 10 digits).filter (· < Text.wordBound)

/-- The natural number of a key that may be missing or null. -/
def optionalNatural? (members : List (String × Json)) (key : String) : Option (Option Nat) :=
  match members.lookup key with
  | none => some none
  | some null => some none
  | some (number digits) => (natural? digits).map some
  | some _ => none

end SchemaSdk.Json
