import SchemaSdk.Account.Profile

/-!
# Keyrings

A keyring keeps a secret for each entry. It may refuse calls, or answer them without doing what it
should; which of that it does is its mode. Every call on an entry is recorded.
-/
namespace SchemaSdk.Account

/-- Why a keyring refuses a call. -/
inductive KeyringError where
  | noAccess
  | noEntry
  | badUser
  deriving DecidableEq

/-- The message for an error. -/
def KeyringError.message : KeyringError → String
  | noAccess => "Couldn't access platform secure storage: locked"
  | noEntry => "No matching entry found in secure storage"
  | badUser => "Attribute user is invalid: refused"

/-- What is called for. -/
inductive KeyringAction where
  | set
  | get
  | delete
  deriving DecidableEq

/-- A call on an entry. -/
structure KeyringCall where
  action : KeyringAction
  entry : EntryName
  deriving DecidableEq

/-- What a keyring does with calls. A locked one refuses all, a read-only one those that change it,
and a guarded one those that its guard names. A forgetful one keeps nothing new; a garbling one
gives no secret as it was; an absent one has no entries at all. -/
inductive KeyringMode where
  | working
  | locked
  | readOnly
  | guarded (guard : KeyringCall → Bool)
  | forgetful
  | garbling
  | absent

/-- Whether a keyring refuses a call. -/
def KeyringMode.refuses : KeyringMode → KeyringCall → Bool
  | locked, _ => true
  | readOnly, call => call.action != .get
  | guarded guard, call => guard call
  | _, _ => false

@[simp] theorem KeyringMode.refuses_working (call : KeyringCall) : working.refuses call = false :=
  rfl

/-- A keyring. -/
structure Keyring where
  items : List (EntryName × String)
  mode : KeyringMode
  calls : List KeyringCall

namespace Keyring

/-- A keyring with items and a mode. -/
def make (items : List (EntryName × String)) (mode : KeyringMode) : Keyring := ⟨items, mode, []⟩

/-- The secret of an entry. -/
def secret? (k : Keyring) (entry : EntryName) : Option String := k.items.lookup entry

/-- The keyring after a call was recorded. -/
def record (k : Keyring) (action : KeyringAction) (entry : EntryName) : Keyring :=
  { k with calls := k.calls ++ [⟨action, entry⟩] }

/-- The items without an entry. -/
def without (items : List (EntryName × String)) (entry : EntryName) : List (EntryName × String) :=
  items.filter (·.1 != entry)

/-- Whether entries can be named at all. -/
def named (k : Keyring) : Except KeyringError Unit :=
  match k.mode with
  | .absent => .error .badUser
  | _ => .ok ()

/-- Keeps a secret for an entry. -/
def set (k : Keyring) (entry : EntryName) (secret : String) :
    Except KeyringError Unit × Keyring :=
  let k := k.record .set entry
  if k.mode.refuses ⟨.set, entry⟩ then (.error .noAccess, k)
  else match k.mode with
    | .forgetful => (.ok (), k)
    | _ => (.ok (), { k with items := (entry, secret) :: without k.items entry })

/-- The secret of an entry. -/
def get (k : Keyring) (entry : EntryName) : Except KeyringError String × Keyring :=
  let k := k.record .get entry
  if k.mode.refuses ⟨.get, entry⟩ then (.error .noAccess, k)
  else match k.mode with
    | .garbling => (.ok "garbled", k)
    | _ =>
      match k.secret? entry with
      | some secret => (.ok secret, k)
      | none => (.error .noEntry, k)

/-- Removes an entry. -/
def delete (k : Keyring) (entry : EntryName) : Except KeyringError Unit × Keyring :=
  let k := k.record .delete entry
  if k.mode.refuses ⟨.delete, entry⟩ then (.error .noAccess, k)
  else if (k.secret? entry).isSome then (.ok (), { k with items := without k.items entry })
  else (.error .noEntry, k)

/-- The secret that a check writes. -/
def checkSecret : String := "sdkgen-keyring-check"

/-- Checks with an entry whether the keyring works: a secret is written, read back and removed. -/
def check (k : Keyring) (entry : EntryName) : Bool × Keyring :=
  match k.named with
  | .error _ => (false, k)
  | .ok () =>
    match k.set entry checkSecret with
    | (.error _, k) => (false, k)
    | (.ok (), k) =>
      let (found, k) := k.get entry
      let (_, k) := k.delete entry
      (found.toOption == some checkSecret, k)

end Keyring
end SchemaSdk.Account
