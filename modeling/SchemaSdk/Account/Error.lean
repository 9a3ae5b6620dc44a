import SchemaSdk.Account.Keyring
import SchemaSdk.Files.System
import SchemaSdk.Login.Error

/-!
# Errors of accounts

Why a configuration, a keyring or a login does not do what it should, with the messages from the
general one to its causes.
-/
namespace SchemaSdk.Account

open SchemaSdk.Login (LoginError)

/-- Why the tokens in an entry of a keyring cannot be worked with. -/
inductive EntryError where
  | named (e : KeyringError)
  | stored (e : KeyringError)
  | retrieved (e : KeyringError)
  | deleted (e : KeyringError)
  | malformed
  deriving DecidableEq

/-- The messages for an error of an entry. -/
def EntryError.chain : EntryError → List String
  | named e => ["Failed to create keyring entry", e.message]
  | stored e => ["Failed to store tokens in keyring", e.message]
  | retrieved e => ["Failed to retrieve tokens from keyring", e.message]
  | deleted e => ["Failed to delete tokens from keyring", e.message]
  | malformed => ["Stored tokens are not valid JSON"]

/-- Why something about accounts fails. -/
inductive AccountError where
  | unreadable (path : String) (e : OsError)
  | malformed (path : String)
  | directory (path : String) (e : OsError)
  | unwritable (path : String) (e : OsError)
  | permissions (e : OsError)
  | unrestricted (path : String) (e : OsError)
  | noProfile (name : String)
  | noClientId (name : String)
  | noKeyring
  | endpoints (e : EndpointError)
  | login (e : LoginError)
  | entry (e : EntryError)
  | notStored (e : EntryError)
  | noTokens (e : EntryError)
  deriving DecidableEq

/-- The messages for an error, from the general one to its causes. -/
def AccountError.chain : AccountError → List String
  | unreadable path e => ["Failed to read config file: " ++ Path.quoted path, e.message]
  | malformed path => ["Failed to parse config file: " ++ Path.quoted path]
  | directory path e => ["Failed to create config directory: " ++ Path.quoted path, e.message]
  | unwritable path e => ["Failed to write config file: " ++ Path.quoted path, e.message]
  | permissions e => [e.message]
  | unrestricted path e => ["Failed to set permissions on " ++ Path.quoted path, e.message]
  | noProfile name => ["Profile '" ++ name ++ "' not found"]
  | noClientId name =>
    ["Profile '" ++ name ++ "' has no client id. Pass --client-id to create it"]
  | noKeyring => ["The system keyring is not available; tokens could not be stored"]
  | endpoints e => e.chain
  | login e => ["Login failed", e.message]
  | entry e => e.chain
  | notStored e => "Failed to store tokens in keyring" :: e.chain
  | noTokens e => "No stored tokens. Try logging in again with 'sdkgen login'" :: e.chain

end SchemaSdk.Account
