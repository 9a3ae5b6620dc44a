/-!
# Names

A name of the schema language is a letter or an underscore followed by letters, digits and
underscores, all of them ASCII. A `Name` carries the proof that it is one, so whatever is built from
a schema inherits it.
-/
namespace SchemaSdk.Schema

/-- Whether a name may start with the character. -/
def isNameStart (c : Char) : Bool := c == '_' || c.isAlpha

/-- Whether a name may go on with the character. -/
def isNamePart (c : Char) : Bool := c == '_' || c.isAlphanum

/-- Whether the characters spell a name. -/
def spellsName : List Char → Bool
  | [] => false
  | c :: r => isNameStart c && r.all isNamePart

/-- A name of the schema language. -/
structure Name where
  text : String
  spells : spellsName text.toList = true

namespace Name

instance : DecidableEq Name := fun a b =>
  if h : a.text = b.text then isTrue (by cases a; cases b; cases h; rfl)
  else isFalse fun hab => h (hab ▸ rfl)

/-- The name that a starting character and what may follow it spell. -/
def ofChars (c : Char) (r : List Char) (hc : isNameStart c = true)
    (hr : r.all isNamePart = true) : Name :=
  ⟨String.ofList (c :: r), by simp [spellsName, hc, hr]⟩

@[simp] theorem text_ofChars (c : Char) (r : List Char) (hc : isNameStart c = true)
    (hr : r.all isNamePart = true) : (ofChars c r hc hr).text = String.ofList (c :: r) := rfl

end Name
end SchemaSdk.Schema
