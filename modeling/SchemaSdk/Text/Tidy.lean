import SchemaSdk.Text.Blank

/-!
# Tidy text

The layout of every file the program writes: no line ends in a blank, visible lines are at most one
empty line apart, no empty line comes first or last, and the text ends in one line feed.
-/
namespace SchemaSdk.Text

/-- The visible lines, with one empty line where some were between two of them. `started` says that
a visible line came before, `gap` that empty lines came since. -/
def spacedFrom (started gap : Bool) : List (List Char) → List (List Char)
  | [] => []
  | [] :: ls => spacedFrom started true ls
  | (c :: l) :: ls =>
    if started && gap then [] :: (c :: l) :: spacedFrom true false ls
    else (c :: l) :: spacedFrom true false ls

/-- The lines of a text after tidying. -/
def tidyLines (s : List Char) : List (List Char) :=
  spacedFrom false false ((lines s).map trimEnd)

/-- A tidied text; one without visible lines is a single line feed. -/
def tidyChars (s : List Char) : List Char :=
  match tidyLines s with
  | [] => ['\n']
  | ls => unlines ls

/-- A text in the layout of written files. -/
def tidy (s : String) : String := String.ofList (tidyChars s.toList)

end SchemaSdk.Text
