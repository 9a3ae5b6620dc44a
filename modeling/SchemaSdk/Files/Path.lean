import SchemaSdk.Text.Quoted

/-!
# Paths

Operations on paths as written: nothing is normalized but for separators and single dots at the end
of a path, which are no component of it. An absolute path starts with a separator.
-/
namespace SchemaSdk.Path

/-- Whether a path starts at the root. -/
def isAbsolute (p : String) : Bool := p.toList.head? == some '/'

/-- A path taken from a base; an absolute one stays. -/
def join (base p : String) : String :=
  if isAbsolute p || base.isEmpty then p
  else if base.toList.getLast? == some '/' then base ++ p
  else base ++ "/" ++ p

/-- Reversed characters of a path without separators and single dots at its end. -/
def trimReversed : List Char → List Char
  | ['/'] => ['/']
  | '/' :: r => trimReversed r
  | '.' :: '/' :: r => trimReversed ('/' :: r)
  | s => s

/-- A path without separators and single dots at its end. -/
def trimmed (p : String) : List Char := (trimReversed p.toList.reverse).reverse

/-- What stands before and after the last separator; before includes it. -/
def splitLast (s : List Char) : List Char × List Char :=
  let after := (s.reverse.takeWhile (· != '/')).reverse
  (s.take (s.length - after.length), after)

/-- The path without its last component, if it has one. -/
def parent? (p : String) : Option String :=
  let s := trimmed p
  if s.isEmpty || s == ['/'] then none
  else some (String.ofList (trimReversed (splitLast s).1.reverse).reverse)

/-- The last component, if it is a name. -/
def fileName? (p : String) : Option (List Char) :=
  let name := (splitLast (trimmed p)).2
  if name.isEmpty || name == ['.'] || name == ['.', '.'] then none else some name

/-- The last component without its extension. A dot that starts the name starts no extension. -/
def fileStem? (p : String) : Option String :=
  (fileName? p).map fun name =>
    let extension := (name.reverse.takeWhile (· != '.')).reverse
    let before := name.take (name.length - extension.length - 1)
    String.ofList (if before.isEmpty then name else before)

/-- A path as messages show it. -/
def quoted (p : String) : String :=
  String.ofList ('"' :: p.toList.flatMap (Text.shown ['"', '\'']) ++ ['"'])

/-- The components of a path that lead through the file system, dots included. -/
def steps (p : String) : List String :=
  (((p.toList.splitOn '/').filter (!·.isEmpty))).map String.ofList

/-- Whether a path can only name a directory. -/
def namesDirectory (p : String) : Bool := p.toList.getLast? == some '/'

end SchemaSdk.Path
