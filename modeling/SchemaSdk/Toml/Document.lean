import SchemaSdk.Toml.Statement

/-!
# TOML documents

What the statements of a document mean together: a table that each statement adds to. A statement
that does not fit those before it makes the document invalid.
-/
namespace SchemaSdk.Toml

/-- The tables made so far, and the header of the one that is open. -/
structure Draft where
  root : Entries
  current : List String

namespace Draft

/-- A document without statements. -/
def empty : Draft := ⟨[], []⟩

/-- The document with one more statement. -/
def add (d : Draft) : Statement → Option Draft
  | .table path => (d.root.openTable path).map (⟨·, path⟩)
  | .item path => (d.root.openItem path).map (⟨·, path⟩)
  | .entry path v =>
    (d.root.within .passed (fun _ es => es.put path v) d.current .header).map (⟨·, d.current⟩)

end Draft

/-- The table that statements make. -/
def ofStatements (statements : List Statement) : Option (List (String × Toml)) :=
  (statements.foldlM Draft.add Draft.empty).map fun d => finishedEntries d.root

/-- A text without the mark of its byte order. -/
def dropMark : List Char → List Char
  | '\ufeff' :: r => r
  | s => s

/-- The table that a text says. -/
def parse (text : String) : Option (List (String × Toml)) :=
  let s := dropMark text.toList
  (readStatements (s.length + 1) s).bind ofStatements

end SchemaSdk.Toml
