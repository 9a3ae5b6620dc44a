import SchemaSdk.Schema.Document
import SchemaSdk.Schema.Literal

/-!
# Reading schema documents

A recursive descent over the tokens with one token of look-ahead. Every repetition is bounded by the
number of tokens left, as each round takes at least one. The first token that cannot go on ends the
reading and is reported with its position.
-/
namespace SchemaSdk.Schema

/-- Why a text is no schema document. -/
inductive Cause where
  | endOfInput
  | unexpected (t : Token)
  | lexical (f : LexicalFault)
  | escape (f : EscapeFault)
  | repeatedRoot (n : Name)
  | unknownRoot (n : Name)
  | trailing (f : LexicalFault)
  | unknownLocation (n : Name)
  | outOfRange (t : Token)
  | emptyExtension (n : Name)
  deriving DecidableEq

/-- Where a text stops being a schema document, and why. -/
structure Fault where
  position : Position
  cause : Cause
  deriving DecidableEq

/-- The part of a text before its first line feed. -/
def firstLine (s : String) : String :=
  String.ofList ((Text.lines s.toList).headD [])

/-- A token as messages show it, with its kind. A token that goes on over the line is cut. -/
def Token.shown (t : Token) : String :=
  firstLine ("\x60" ++ t.source ++ "[" ++ t.kind ++ "]\x60")

/-- What was not expected, if the message says so. -/
def Cause.unexpected? : Cause → Option String
  | endOfInput => some "end of input"
  | unexpected t => some t.shown
  | lexical f => some f.message
  | escape f => some f.message
  | repeatedRoot n => some ("duplicate \x60" ++ n.text ++ "\x60 operation")
  | unknownRoot n => some (Token.name n).shown
  | trailing _ | unknownLocation _ | outOfRange _ | emptyExtension _ => none

/-- The message for a fault. -/
def Fault.message (f : Fault) : String :=
  "schema parse error: Parse error at " ++ toString f.position.line ++ ":" ++
    toString f.position.column ++
    match f.cause.unexpected? with
    | some what => "\nUnexpected " ++ what
    | none => ""

/-- A reader of a part of a document. -/
abbrev Parser := StateT Tokens (Except Fault)

namespace Parser

/-- The next token, if there is one. -/
def peek : Parser (Option Token) := do
  return (← get).list.head?.map (·.token)

/-- Where the next token starts or scanning stopped. -/
def position : Parser Position := do
  let s ← get
  return match s.list with
    | t :: _ => t.position
    | [] => s.stop

/-- Fails at the next token, which does not fit. -/
def unexpected {α : Type} : Parser α := do
  let s ← get
  match s.list, s.fault with
  | t :: _, _ => throw ⟨t.position, .unexpected t.token⟩
  | [], some f => throw ⟨s.stop, .lexical f⟩
  | [], none => throw ⟨s.stop, .endOfInput⟩

/-- Takes the next token. -/
def advance : Parser Unit :=
  modify fun s => { s with list := s.list.tail }

/-- Takes a mark if it is next. -/
def mark? (m : Mark) : Parser Bool := do
  if (← peek) = some (.mark m) then advance; return true else return false

/-- Takes a mark. -/
def mark (m : Mark) : Parser Unit := do
  if !(← mark? m) then unexpected

/-- Takes a name. -/
def name : Parser Name := do
  match ← peek with
  | some (.name n) => advance; return n
  | _ => unexpected

/-- Takes a certain word if it is next. -/
def word? (w : String) : Parser Bool := do
  match ← peek with
  | some (.name n) => if n.text = w then advance; return true else return false
  | _ => return false

/-- Takes a certain word. -/
def word (w : String) : Parser Unit := do
  if !(← word? w) then unexpected

/-- Reads items as long as the next token may start one, at most as many as the fuel says. -/
def repeatAtMost {α : Type} (starts : Token → Bool) (item : Parser α) : Nat → Parser (List α)
  | 0 => return []
  | fuel + 1 => do
    if (← peek).any starts then
      let x ← item
      let xs ← repeatAtMost starts item fuel
      return x :: xs
    else return []

/-- Reads items as long as the next token may start one. -/
def repeatWhile {α : Type} (starts : Token → Bool) (item : Parser α) : Parser (List α) := do
  repeatAtMost starts item (← get).list.length

/-- Reads one item and then more as long as the next token may start one. -/
def repeatOnce {α : Type} (starts : Token → Bool) (item : Parser α) : Parser (List α) := do
  let x ← item
  let xs ← repeatWhile starts item
  return x :: xs

/-- Reads items that a mark separates. -/
def separated {α : Type} (m : Mark) (item : Parser α) : Parser (List α) := do
  let x ← item
  let xs ← repeatWhile (· == .mark m) (do mark m; item)
  return x :: xs

/-- Whether a token is a name. -/
def isName : Token → Bool
  | .name _ => true
  | _ => false

/-- Whether a token is a string of either kind. -/
def isString : Token → Bool
  | .string _ | .blockString _ => true
  | _ => false

/-- Takes a string and gives its value. -/
def string : Parser String := do
  let p ← position
  match ← peek with
  | some (.string source) =>
    advance
    match unescape (betweenQuotes 1 source) with
    | .ok value => return String.ofList value
    | .error f => throw ⟨p, .escape f⟩
  | some (.blockString source) =>
    advance
    return String.ofList (blockValue (betweenQuotes 3 source))
  | _ => unexpected

/-- Takes a string if one is next. -/
def description : Parser (Option String) := do
  if (← peek).any isString then return some (← string) else return none

/-- Whether a token may start a value. -/
def startsValue : Token → Bool
  | .name _ | .integer _ | .decimal _ | .string _ | .blockString _ => true
  | .mark .leftBracket | .mark .leftBrace | .mark .dollar => true
  | .mark _ => false

/-- Checks a value. Variables are values only in directives. The fuel bounds the nesting. -/
def value (withVariables : Bool) : Nat → Parser Unit
  | 0 => unexpected
  | fuel + 1 => do
    let p ← position
    match ← peek with
    | some (.name _) => advance
    | some (.integer source) =>
      if integerFits source then advance else throw ⟨p, .outOfRange (.integer source)⟩
    | some (.decimal source) =>
      if decimalFits source then advance else throw ⟨p, .outOfRange (.decimal source)⟩
    | some (.string _) | some (.blockString _) => discard string
    | some (.mark .leftBracket) =>
      advance
      discard <| repeatWhile startsValue (value withVariables fuel)
      mark .rightBracket
    | some (.mark .leftBrace) =>
      advance
      discard <| repeatWhile isName (do discard name; mark .colon; value withVariables fuel)
      mark .rightBrace
    | some (.mark .dollar) =>
      if withVariables then advance; discard name else unexpected
    | _ => unexpected

/-- Reads the directives that come next and gives their names. -/
def directives : Parser (List Name) :=
  repeatWhile (· == .mark .atSign) do
    mark .atSign
    let n ← name
    if ← mark? .leftParen then
      let fuel := (← get).list.length
      discard <| repeatOnce isName (do discard name; mark .colon; value true fuel)
      mark .rightParen
    return n

/-- Reads a type. The fuel bounds the nesting. -/
def typeExpr : Nat → Parser TypeExpr
  | 0 => unexpected
  | fuel + 1 => do
    if ← mark? .leftBracket then
      let item ← typeExpr fuel
      mark .rightBracket
      return .list item (← mark? .bang)
    else
      let n ← name
      return .named n (← mark? .bang)

/-- Reads a type. -/
def type : Parser TypeExpr := do
  typeExpr (← get).list.length

/-- Whether a token may start a described definition by name. -/
def startsNamed (t : Token) : Bool := isName t || isString t

/-- Reads an argument or a field of an input type. -/
def input : Parser InputDef := do
  let description ← description
  let name ← name
  mark .colon
  let type ← type
  if ← mark? .equals then
    value false (← get).list.length
  discard directives
  return { description, name, type }

/-- Reads the arguments of a field if there are any. -/
def arguments : Parser (List InputDef) := do
  if ← mark? .leftParen then
    let inputs ← repeatOnce startsNamed input
    mark .rightParen
    return inputs
  else return []

/-- Reads a field of an object or interface type. -/
def field : Parser FieldDef := do
  let description ← description
  let name ← name
  let arguments ← arguments
  mark .colon
  let type ← type
  discard directives
  return { description, name, arguments, type }

/-- Reads a value of an enumeration. -/
def enumValue : Parser ValueDef := do
  let description ← description
  let name ← name
  discard directives
  return { description, name }

/-- Reads one or more items between braces, if an opening brace is next. -/
def block {α : Type} (item : Parser α) : Parser (List α) := do
  if ← mark? .leftBrace then
    let items ← repeatOnce startsNamed item
    mark .rightBrace
    return items
  else return []

/-- Reads the interfaces that a type implements. -/
def interfaces : Parser (List Name) := do
  if ← word? "implements" then
    discard <| mark? .ampersand
    separated .ampersand name
  else return []

/-- Reads the members of a union. -/
def members : Parser (List Name) := do
  if ← mark? .equals then
    discard <| mark? .bar
    separated .bar name
  else return []

/-- The part that definitions and extensions of types share, and whether it can stand as an
extension: one has to add something. -/
structure NamedBody where
  name : Name
  body : TypeBody
  adds : Bool

/-- Reads a type by the word that says its kind. -/
def namedBody (kind : String) : Parser NamedBody := do
  let name ← name
  match kind with
  | "scalar" =>
    let ds ← directives
    return { name, body := .scalar, adds := !ds.isEmpty }
  | "type" =>
    let is ← interfaces
    let ds ← directives
    let fields ← block field
    return { name, body := .object fields, adds := !(is.isEmpty && ds.isEmpty && fields.isEmpty) }
  | "interface" =>
    discard interfaces
    let ds ← directives
    let fields ← block field
    return { name, body := .interface fields, adds := !(ds.isEmpty && fields.isEmpty) }
  | "union" =>
    let ds ← directives
    let members ← members
    return { name, body := .union members, adds := !(ds.isEmpty && members.isEmpty) }
  | "enum" =>
    let ds ← directives
    let values ← block enumValue
    return { name, body := .enumeration values, adds := !(ds.isEmpty && values.isEmpty) }
  | _ =>
    let ds ← directives
    let fields ← block input
    return { name, body := .input fields, adds := !(ds.isEmpty && fields.isEmpty) }

/-- The words that say the kind of a type. -/
def typeKinds : List String := ["scalar", "type", "interface", "union", "enum", "input"]

/-- Takes a word that says the kind of a type. -/
def typeKind : Parser String := do
  match ← peek with
  | some (.name n) => if typeKinds.contains n.text then advance; return n.text else unexpected
  | _ => unexpected

/-- Reads an extension of a type. -/
def extension : Parser TypeExtension := do
  word "extend"
  let p ← position
  let kind ← typeKind
  let b ← namedBody kind
  if b.adds then return { name := b.name, body := b.body }
  else throw ⟨p, .emptyExtension b.name⟩

/-- The places where a directive may be used. -/
def locations : List String := [
  "QUERY", "MUTATION", "SUBSCRIPTION", "FIELD", "FRAGMENT_DEFINITION", "FRAGMENT_SPREAD",
  "INLINE_FRAGMENT", "SCHEMA", "SCALAR", "OBJECT", "FIELD_DEFINITION", "ARGUMENT_DEFINITION",
  "INTERFACE", "UNION", "ENUM", "ENUM_VALUE", "INPUT_OBJECT", "INPUT_FIELD_DEFINITION",
  "VARIABLE_DEFINITION"]

/-- Takes a place where a directive may be used. -/
def location : Parser Unit := do
  let p ← position
  let n ← name
  if !locations.contains n.text then throw ⟨p, .unknownLocation n⟩

/-- Reads the definition of a directive. -/
def directive : Parser Name := do
  word "directive"
  mark .atSign
  let n ← name
  discard arguments
  discard <| word? "repeatable"
  word "on"
  if ← mark? .bar then discard <| separated .bar location
  else if (← peek).any isName then discard <| separated .bar location
  return n

/-- The roots that the entries of a schema block name, each at most once. -/
def rootsOf (p : Position) : List (Name × Name) → Roots → Except Fault Roots
  | [], roots => .ok roots
  | (key, type) :: entries, roots =>
    match key.text with
    | "query" =>
      if roots.query.isSome then .error ⟨p, .repeatedRoot key⟩
      else rootsOf p entries { roots with query := type.text }
    | "mutation" =>
      if roots.mutation.isSome then .error ⟨p, .repeatedRoot key⟩
      else rootsOf p entries { roots with mutation := type.text }
    | "subscription" =>
      if roots.subscription.isSome then .error ⟨p, .repeatedRoot key⟩
      else rootsOf p entries { roots with subscription := type.text }
    | _ => .error ⟨p, .unknownRoot key⟩

/-- Reads a schema block. -/
def schemaBlock : Parser Roots := do
  let p ← position
  word "schema"
  discard directives
  mark .leftBrace
  let entries ← repeatWhile isName do
    let key ← name
    mark .colon
    return (key, ← name)
  mark .rightBrace
  rootsOf p entries ⟨none, none, none⟩

/-- Reads one definition. -/
def definition : Parser Definition := do
  match ← peek with
  | some (.name n) =>
    if n.text = "schema" then return .schema (← schemaBlock)
    if n.text = "extend" then return .extension (← extension)
  | _ => pure ()
  let description ← description
  match ← peek with
  | some (.name n) =>
    if n.text = "directive" then return .directive (← directive)
  | _ => pure ()
  let b ← namedBody (← typeKind)
  return .type { description, name := b.name, body := b.body }

/-- Whether a token may start a definition. -/
def startsDefinition : Token → Bool
  | .name n => (["schema", "extend", "directive"] ++ typeKinds).contains n.text
  | t => isString t

/-- Checks that nothing comes next. -/
def finish : Parser Unit := do
  let s ← get
  match s.list, s.fault with
  | [], none => return
  | [], some f => throw ⟨s.stop, .trailing f⟩
  | _, _ => unexpected

/-- Reads a whole document. -/
def document : Parser Document := do
  let definitions ← repeatOnce startsDefinition definition
  finish
  return definitions

end Parser

/-- The document that a schema text denotes. -/
def Document.parse (s : String) : Except Fault Document :=
  (Parser.document.run (scan s)).map (·.1)

end SchemaSdk.Schema
