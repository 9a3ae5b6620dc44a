/-!
# TOML values

What a TOML text means. Numbers, dates and times keep only their text, since nothing is computed
from them.
-/
namespace SchemaSdk

/-- A TOML value. -/
inductive Toml where
  | string (s : String)
  | bool (b : Bool)
  | number (text : String)
  | dateTime (text : String)
  | array (items : List Toml)
  | table (entries : List (String × Toml))

namespace Toml

/-- The string that a value is. -/
def asString? : Toml → Option String
  | string s => some s
  | _ => none

/-- The list of strings that a value is. -/
def asStrings? : Toml → Option (List String)
  | array items => items.mapM asString?
  | _ => none

end Toml
end SchemaSdk
