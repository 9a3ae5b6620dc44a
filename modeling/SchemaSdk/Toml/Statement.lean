import SchemaSdk.Toml.Scalar

/-!
# TOML statements

A document is a list of statements: headers, which open a table or the next table of an array, and
entries, which give a key of the open table a value. A key may be a path of several parts. What the
statements mean together is left to `Toml.Document`, except for tables within a line, whose
entries have to make a table by themselves.
-/
namespace SchemaSdk.Toml

/-- What one line of a document says. -/
inductive Statement where
  | table (path : List String)
  | item (path : List String)
  | entry (path : List String) (value : Toml)

/-- Where a table comes from: a header, a header of a table within it, or a key with several
parts. -/
inductive Origin where
  | header
  | passed
  | dotted
  deriving DecidableEq

/-- A part of a document under construction: a value, a table, or an array of tables. -/
inductive Branch where
  | value (v : Toml)
  | table (origin : Origin) (entries : List (String × Branch))
  | items (tables : List (List (String × Branch)))

/-- The entries of a table under construction. -/
abbrev Entries := List (String × Branch)

namespace Entries

/-- The entries with another branch at a key that they have. -/
def replace (es : Entries) (key : String) (b : Branch) : Entries :=
  es.map fun e => if e.1 == key then (key, b) else e

/-- Changes the table that a path leads to. Tables that are missing on the way are made with the
given origin; a path leads into the last table of an array and never into a value. A key with
several parts adds nothing to a table that has its own header. The change is told where the table
comes from. -/
def within (origin : Origin) (change : Origin → Entries → Option Entries) :
    List String → Origin → Entries → Option Entries
  | [], o, es => change o es
  | key :: path, _, es =>
    match es.lookup key with
    | none => (within origin change path origin []).map fun sub => es ++ [(key, .table origin sub)]
    | some (.value _) => none
    | some (.table o sub) =>
      if origin = .dotted ∧ o = .header then none
      else (within origin change path o sub).map fun sub => es.replace key (.table o sub)
    | some (.items tables) =>
      match tables.getLast? with
      | none => none
      | some last =>
        (within origin change path .header last).map fun last =>
          es.replace key (.items (tables.dropLast ++ [last]))

/-- Gives a key of the table a value. -/
def put (path : List String) (v : Toml) (es : Entries) : Option Entries :=
  match path.getLast? with
  | none => none
  | some key =>
    let tables := path.dropLast
    within .dotted (fun origin es =>
      if (origin == .dotted) == tables.isEmpty then none
      else if (es.lookup key).isSome then none
      else some (es ++ [(key, .value v)])) tables .header es

/-- Opens the table that a header names. A table has one header, and one that was only passed on
the way to another may still get it. -/
def openTable (path : List String) (es : Entries) : Option Entries :=
  match path.getLast? with
  | none => none
  | some key =>
    within .passed (fun _ es =>
      match es.lookup key with
      | none => some (es ++ [(key, .table .header [])])
      | some (.table .passed sub) => some (es.replace key (.table .header sub))
      | some _ => none) path.dropLast .header es

/-- Adds a table to the array that a header names. -/
def openItem (path : List String) (es : Entries) : Option Entries :=
  match path.getLast? with
  | none => none
  | some key =>
    within .passed (fun _ es =>
      match es.lookup key with
      | none => some (es ++ [(key, .items [[]])])
      | some (.items tables) => some (es.replace key (.items (tables ++ [[]])))
      | some _ => none) path.dropLast .header es

end Entries

mutual

/-- The value that a branch has become. -/
def Branch.finished : Branch → Toml
  | .value v => v
  | .table _ es => .table (finishedEntries es)
  | .items tables => .array (finishedTables tables)

/-- The values that entries have become. -/
def finishedEntries : List (String × Branch) → List (String × Toml)
  | [] => []
  | (key, b) :: es => (key, b.finished) :: finishedEntries es

/-- The tables that an array has become. -/
def finishedTables : List (List (String × Branch)) → List Toml
  | [] => []
  | es :: tables => .table (finishedEntries es) :: finishedTables tables

end

/-- Whether a character may stand in a key without quotes. -/
def isBare (c : Char) : Bool := c.isAlphanum || c == '_' || c == '-'

/-- One part of a key. -/
def readKeyPart (s : List Char) : Option (String × List Char) :=
  match s with
  | '"' :: r => (readBasic (s.length + 1) r).map fun (k, rest) => (String.ofList k, rest)
  | '\'' :: r => (readLiteral r).map fun (k, rest) => (String.ofList k, rest)
  | s =>
    match s.takeWhile isBare with
    | [] => none
    | k => some (String.ofList k, s.dropWhile isBare)

/-- The parts of a key with points between them, blanks around each. The fuel bounds their
number. -/
def readPath : Nat → List Char → Option (List String × List Char)
  | 0, _ => none
  | fuel + 1, s =>
    match readKeyPart (skipSpace s) with
    | none => none
    | some (part, r) =>
      match skipSpace r with
      | '.' :: r => (readPath fuel r).map fun (parts, rest) => (part :: parts, rest)
      | rest => some ([part], rest)

/-- How deep arrays and tables may be nested within a line, and how many parts a key may have. -/
def maxDepth : Nat := 79

/-- A key, as its parts. -/
def readKey (s : List Char) : Option (List String × List Char) := readPath maxDepth s

/-- A text without a comment at its start, if all of the comment may stand in one. -/
def skipComment? : List Char → Option (List Char)
  | '#' :: r =>
    match r.dropWhile isPlain with
    | [] => some []
    | '\n' :: rest => some ('\n' :: rest)
    | '\r' :: '\n' :: rest => some ('\r' :: '\n' :: rest)
    | _ => none
  | s => some s

/-- A text without blanks, line ends and comments at its start. -/
def skipFill : Nat → List Char → Option (List Char)
  | 0, s => some s
  | fuel + 1, s =>
    match skipLines s with
    | '#' :: r => (skipComment? ('#' :: r)).bind (skipFill fuel)
    | s => some s

/-- The values of an array after its first bracket. -/
def readArray (read : List Char → Option (Toml × List Char)) :
    Nat → List Char → Option (List Toml × List Char)
  | 0, _ => none
  | fuel + 1, s => do
    match ← skipFill s.length s with
    | ']' :: rest => return ([], rest)
    | s =>
      let (v, s) ← read s
      match ← skipFill s.length s with
      | ']' :: rest => return ([v], rest)
      | ',' :: s =>
        let (vs, rest) ← readArray read fuel s
        return (v :: vs, rest)
      | _ => none

/-- A key, an equals sign and a value. -/
def readEntry (read : List Char → Option (Toml × List Char)) (s : List Char) :
    Option ((List String × Toml) × List Char) := do
  match ← readKey s with
  | (path, '=' :: s) =>
    let (v, rest) ← read (skipSpace s)
    return ((path, v), rest)
  | _ => none

/-- The entries of a table within a line after its first brace, at least one. -/
def readInline (read : List Char → Option (Toml × List Char)) :
    Nat → List Char → Option (List (List String × Toml) × List Char)
  | 0, _ => none
  | fuel + 1, s => do
    let (e, s) ← readEntry read s
    match skipSpace s with
    | '\x7d' :: rest => return ([e], rest)
    | ',' :: s =>
      let (es, rest) ← readInline read fuel s
      return (e :: es, rest)
    | _ => none

/-- The table that entries make. -/
def tableOf (entries : List (List String × Toml)) : Option Toml :=
  (entries.foldlM (fun es (e : List String × Toml) => Entries.put e.1 e.2 es) []).map fun es =>
    .table (finishedEntries es)

/-- A value, with at most so many arrays and tables around its parts. -/
def readValue : Nat → List Char → Option (Toml × List Char)
  | depth, s =>
    match s, depth with
    | '"' :: _, _ => (readString s).map fun (v, rest) => (string (String.ofList v), rest)
    | '\'' :: _, _ => (readString s).map fun (v, rest) => (string (String.ofList v), rest)
    | '[' :: _, 0 => none
    | '[' :: r, depth + 1 =>
      (readArray (readValue depth) s.length r).map fun (vs, rest) => (array vs, rest)
    | '\x7b' :: _, 0 => none
    | '\x7b' :: r, depth + 1 =>
      match skipSpace r with
      | '\x7d' :: rest => some (table [], rest)
      | r =>
        match readInline (readValue depth) s.length r with
        | none => none
        | some (es, rest) => (tableOf es).map (·, rest)
    | s, _ => readScalar s

/-- What follows the end of a line, before which only blanks and a comment may stand. -/
def lineEnd? (s : List Char) : Option (List Char) := do
  match ← skipComment? (skipSpace s) with
  | [] => return []
  | s => newline? s

/-- A header or an entry. -/
def readStatement : List Char → Option (Statement × List Char)
  | '[' :: '[' :: s => do
    match ← readKey s with
    | (path, ']' :: ']' :: rest) => return (.item path, rest)
    | _ => none
  | '[' :: s => do
    match ← readKey s with
    | (path, ']' :: rest) => return (.table path, rest)
    | _ => none
  | s => (readEntry (readValue maxDepth) s).map fun ((path, v), rest) => (.entry path v, rest)

/-- The statements of a text. The fuel is more than the number of its lines. -/
def readStatements : Nat → List Char → Option (List Statement)
  | 0, _ => none
  | fuel + 1, s =>
    match skipLines s with
    | [] => some []
    | '#' :: r => (lineEnd? ('#' :: r)).bind (readStatements fuel)
    | s => do
      let (statement, s) ← readStatement s
      let s ← lineEnd? s
      let statements ← readStatements fuel s
      return statement :: statements

end SchemaSdk.Toml
