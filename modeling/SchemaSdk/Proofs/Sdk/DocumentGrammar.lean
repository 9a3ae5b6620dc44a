import Mathlib.Data.List.Infix
import SchemaSdk.Schema.Token

/-!
# The grammar of request documents

What a server takes as a document that it can execute: operations and fragments, with all that the
grammar of the query language allows in them. The grammar is a rule for each symbol; a phrase of it
reads some tokens and leaves those that follow. Lexemes are those of schemas.
-/
namespace SchemaSdk.Executable

open SchemaSdk.Schema (Mark Name Token)

/-- The symbols of the grammar. Values have to be constant in some places, which have no variables
then. A field can have another name in the answer. -/
inductive Symbol where
  | document
  | definition
  | operation
  | operationKind
  | variableDefinitions
  | variableDefinition
  | defaultValue
  | type
  | nullableType
  | directive (constant : Bool)
  | arguments (constant : Bool)
  | argument (constant : Bool)
  | value (constant : Bool)
  | selectionSet
  | selection
  | field
  | otherName
  | spread
  | inlineFragment
  | typeCondition
  | fragment

/-- The phrases that rules are made of. A literal is a number or a string. -/
inductive Phrase where
  | mark (m : Mark)
  | word (w : String)
  | name
  | nameBut (w : String)
  | literal
  | symbol (s : Symbol)
  | all (parts : List Phrase)
  | one (choices : List Phrase)
  | many (part : Phrase)

namespace Phrase

/-- A phrase, or nothing. -/
def optional (p : Phrase) : Phrase := one [all [], p]

/-- A phrase at least once. -/
def some (p : Phrase) : Phrase := all [p, many p]

/-- A phrase in parentheses. -/
def parenthesized (p : Phrase) : Phrase := all [mark .leftParen, p, mark .rightParen]

/-- A phrase in brackets. -/
def bracketed (p : Phrase) : Phrase := all [mark .leftBracket, p, mark .rightBracket]

/-- A phrase in braces. -/
def braced (p : Phrase) : Phrase := all [mark .leftBrace, p, mark .rightBrace]

/-- A variable. -/
def dollarName : Phrase := all [mark .dollar, name]

/-- Any number of directives. -/
def directives (constant : Bool) : Phrase := many (symbol (.directive constant))

end Phrase

open Phrase in
/-- The rules of the grammar. Only the name of a fragment must not be `on`, which starts the
condition that follows it. -/
def Symbol.rule : Symbol → Phrase
  | document => some (symbol definition)
  | definition => one [symbol operation, symbol fragment]
  | operation => one [
      symbol selectionSet,
      all [symbol operationKind, optional name, optional (symbol variableDefinitions),
        directives false, symbol selectionSet]]
  | operationKind => one [word "query", word "mutation", word "subscription"]
  | variableDefinitions => parenthesized (some (symbol variableDefinition))
  | variableDefinition =>
      all [dollarName, mark .colon, symbol type, optional (symbol defaultValue),
        directives true]
  | defaultValue => all [mark .equals, symbol (value true)]
  | type => all [symbol nullableType, optional (mark .bang)]
  | nullableType => one [name, bracketed (symbol type)]
  | directive constant => all [mark .atSign, name, optional (symbol (arguments constant))]
  | arguments constant => parenthesized (some (symbol (argument constant)))
  | argument constant => all [name, mark .colon, symbol (value constant)]
  | value constant => one ((if constant then [] else [dollarName]) ++ [
      literal, name, bracketed (many (symbol (value constant))),
      braced (many (symbol (argument constant)))])
  | selectionSet => braced (some (symbol selection))
  | selection => one [symbol field, symbol spread, symbol inlineFragment]
  | field =>
      all [optional (symbol otherName), name, optional (symbol (arguments false)), directives false,
        optional (symbol selectionSet)]
  | otherName => all [name, mark .colon]
  | spread => all [mark .ellipsis, nameBut "on", directives false]
  | inlineFragment =>
      all [mark .ellipsis, optional (symbol typeCondition), directives false, symbol selectionSet]
  | typeCondition => all [word "on", name]
  | fragment =>
      all [word "fragment", nameBut "on", symbol typeCondition, directives false,
        symbol selectionSet]

/-- Whether a token is a number or a string. -/
def isLiteral : Token → Bool
  | .integer _ | .decimal _ | .string _ | .blockString _ => true
  | _ => false

/-- A phrase reads the first tokens of some, up to the rest. -/
inductive Reads : Phrase → List Token → List Token → Prop
  | mark (m : Mark) (r : List Token) : Reads (.mark m) (.mark m :: r) r
  | word {w : String} (n : Name) (h : n.text = w) (r : List Token) :
    Reads (.word w) (.name n :: r) r
  | name (n : Name) (r : List Token) : Reads .name (.name n :: r) r
  | nameBut {w : String} (n : Name) (h : n.text ≠ w) (r : List Token) :
    Reads (.nameBut w) (.name n :: r) r
  | literal (t : Token) (h : isLiteral t = true) (r : List Token) : Reads .literal (t :: r) r
  | symbol {s : Symbol} {ts r : List Token} (h : Reads s.rule ts r) : Reads (.symbol s) ts r
  | nil (r : List Token) : Reads (.all []) r r
  | cons {p : Phrase} {ps : List Phrase} {ts us r : List Token} (hp : Reads p ts us)
    (hps : Reads (.all ps) us r) : Reads (.all (p :: ps)) ts r
  | one {p : Phrase} {ps : List Phrase} {ts r : List Token} (hmem : p ∈ ps) (h : Reads p ts r) :
    Reads (.one ps) ts r
  | done (p : Phrase) (r : List Token) : Reads (.many p) r r
  | more {p : Phrase} {ts us r : List Token} (hp : Reads p ts us) (hps : Reads (.many p) us r) :
    Reads (.many p) ts r

namespace Reads

variable {p : Phrase} {ps : List Phrase} {ts r : List Token}

@[simp] theorem mark_iff {m : Mark} : Reads (.mark m) ts r ↔ ts = .mark m :: r := by
  constructor
  · rintro ⟨⟩
    rfl
  · rintro rfl
    exact .mark m r

@[simp] theorem word_iff {w : String} :
    Reads (.word w) ts r ↔ ∃ n : Name, n.text = w ∧ ts = .name n :: r := by
  constructor
  · rintro ⟨⟩
    exact ⟨_, ‹_›, rfl⟩
  · rintro ⟨n, hn, rfl⟩
    exact .word n hn r

@[simp] theorem name_iff : Reads .name ts r ↔ ∃ n : Name, ts = .name n :: r := by
  constructor
  · rintro ⟨⟩
    exact ⟨_, rfl⟩
  · rintro ⟨n, rfl⟩
    exact .name n r

@[simp] theorem nameBut_iff {w : String} :
    Reads (.nameBut w) ts r ↔ ∃ n : Name, n.text ≠ w ∧ ts = .name n :: r := by
  constructor
  · rintro ⟨⟩
    exact ⟨_, ‹_›, rfl⟩
  · rintro ⟨n, hn, rfl⟩
    exact .nameBut n hn r

@[simp] theorem symbol_iff {s : Symbol} : Reads (.symbol s) ts r ↔ Reads s.rule ts r :=
  ⟨fun | .symbol h => h, .symbol⟩

@[simp] theorem nil_iff : Reads (.all []) ts r ↔ ts = r := by
  constructor
  · rintro ⟨⟩
    rfl
  · rintro rfl
    exact .nil ts

@[simp] theorem cons_iff :
    Reads (.all (p :: ps)) ts r ↔ ∃ us, Reads p ts us ∧ Reads (.all ps) us r :=
  ⟨fun | .cons hp hps => ⟨_, hp, hps⟩, fun ⟨_, hp, hps⟩ => .cons hp hps⟩

@[simp] theorem one_iff : Reads (.one ps) ts r ↔ ∃ p ∈ ps, Reads p ts r :=
  ⟨fun | .one hmem h => ⟨_, hmem, h⟩, fun ⟨_, hmem, h⟩ => .one hmem h⟩

theorem optional_iff : Reads p.optional ts r ↔ ts = r ∨ Reads p ts r := by
  simp [Phrase.optional]

theorem missing (p : Phrase) (ts : List Token) : Reads p.optional ts ts :=
  optional_iff.mpr (.inl rfl)

theorem eq_of_word {w : String} {t : Token} (h : Reads (.word w) (t :: ts) r) : ts = r := by
  obtain ⟨n, _, heq⟩ := word_iff.mp h
  exact (List.cons.inj heq).2

theorem eq_of_operationKind {t : Token} (h : Reads (.symbol .operationKind) (t :: ts) r) :
    ts = r := by
  obtain ⟨p, hp, hreads⟩ := one_iff.mp (symbol_iff.mp h)
  simp only [List.mem_cons, List.not_mem_nil, or_false] at hp
  rcases hp with rfl | rfl | rfl
  · exact eq_of_word hreads
  · exact eq_of_word hreads
  · exact eq_of_word hreads

/-- A phrase that none of the tokens starts is not repeated. -/
theorem eq_of_many (hp : ∀ us, ¬ Reads p ts us) (h : Reads (.many p) ts r) : ts = r := by
  cases h with
  | done => rfl
  | more h _ => exact absurd h (hp _)

/-- No document has a number or a string after its first word. -/
theorem not_document_of_literal {n : Name} {t : Token} (ht : isLiteral t = true) :
    ¬ Reads (.symbol .document) (.name n :: t :: ts) r := by
  have hmark : ∀ m, t ≠ .mark m := by
    rintro m rfl
    cases ht
  have hname : ∀ n, t ≠ .name n := by
    rintro m rfl
    cases ht
  intro h
  obtain ⟨us, hdefinition, _⟩ := cons_iff.mp (symbol_iff.mp h)
  obtain ⟨p, hp, hreads⟩ := one_iff.mp (symbol_iff.mp hdefinition)
  simp only [List.mem_cons, List.not_mem_nil, or_false] at hp
  rcases hp with rfl | rfl
  · obtain ⟨p, hp, hreads⟩ := one_iff.mp (symbol_iff.mp hreads)
    simp only [List.mem_cons, List.not_mem_nil, or_false] at hp
    rcases hp with rfl | rfl
    · simp [Symbol.rule, Phrase.braced] at hreads
    · -- Behind the kind of the operation the literal is neither a name nor one of the marks that
      -- may stand there.
      simp only [cons_iff, nil_iff, optional_iff] at hreads
      obtain ⟨us₁, hkind, us₂, hreads, us₃, hvariables, us₄, hdirectives, us₅, hset, _⟩ := hreads
      obtain rfl := eq_of_operationKind hkind
      obtain rfl : t :: ts = us₂ := by
        simpa [hname] using hreads
      obtain rfl : t :: ts = us₃ := by
        simpa [hmark, Symbol.rule, Phrase.parenthesized] using hvariables
      obtain rfl := hdirectives.eq_of_many fun us hus => by
        simp [Symbol.rule, hmark] at hus
      simp [Symbol.rule, Phrase.braced, hmark] at hset
  · obtain ⟨us₁, hword, hreads⟩ := cons_iff.mp (symbol_iff.mp hreads)
    obtain rfl := eq_of_word hword
    obtain ⟨us₂, hreads, _⟩ := cons_iff.mp hreads
    obtain ⟨m, _, heq⟩ := nameBut_iff.mp hreads
    exact hname m (List.cons.inj heq).1

theorem suffix (h : Reads p ts r) : r <:+ ts := by
  induction h with
  | mark _ r | word _ _ r | name _ r | nameBut _ _ r | literal _ _ r => exact List.suffix_cons _ r
  | nil r | done _ r => exact List.suffix_rfl
  | symbol _ ih | one _ _ ih => exact ih
  | cons _ _ ih ihs | more _ _ ih ihs => exact ihs.trans ih

end Reads

/-- What may be left of some tokens behind a phrase. Where the steps do not suffice to follow the
rules, nothing is excluded. -/
def rests : Nat → Phrase → List Token → List (List Token)
  | 0, _, ts => ts.tails
  | _ + 1, .mark m, .mark n :: r => if m = n then [r] else []
  | _ + 1, .word w, .name n :: r => if n.text = w then [r] else []
  | _ + 1, .name, .name _ :: r => [r]
  | _ + 1, .nameBut w, .name n :: r => if n.text = w then [] else [r]
  | _ + 1, .literal, t :: r => if isLiteral t then [r] else []
  | steps + 1, .symbol s, ts => rests steps s.rule ts
  | _ + 1, .all [], ts => [ts]
  | steps + 1, .all (p :: ps), ts => (rests steps p ts).flatMap (rests steps (.all ps))
  | steps + 1, .one ps, ts => ps.flatMap (rests steps · ts)
  | steps + 1, .many p, ts => ts :: (rests steps p ts).flatMap (rests steps (.many p))
  | _ + 1, _, _ => []

/-- However many steps are taken, what a phrase leaves is among what may be left. -/
theorem Reads.mem_rests {p : Phrase} {ts r : List Token} (h : Reads p ts r) (steps : Nat) :
    r ∈ rests steps p ts := by
  induction steps generalizing p ts r with
  | zero =>
    rw [rests, List.mem_tails]
    exact h.suffix
  | succ steps ih =>
    cases h with
    | mark m => simp [rests]
    | word n hn => simp [rests, hn]
    | name n => simp [rests]
    | nameBut n hn => simp [rests, hn]
    | literal t ht => simp [rests, ht]
    | symbol h => exact ih h
    | nil => exact List.mem_cons_self
    | cons hp hps => exact List.mem_flatMap.mpr ⟨_, ih hp, ih hps⟩
    | one hmem h => exact List.mem_flatMap.mpr ⟨_, hmem, ih h⟩
    | done => exact List.mem_cons_self
    | more hp hps => exact List.mem_cons_of_mem _ (List.mem_flatMap.mpr ⟨_, ih hp, ih hps⟩)

/-- The tokens of a text; nothing if some of it is no token. Brackets may be nested as deep as the
text is long. -/
def tokens? (text : String) : Option (List Token) :=
  let s := text.toList
  let scanned := Schema.scanFrom (s.length + 1) s.length ⟨1, 1⟩ s
  if scanned.fault.isNone then some (scanned.list.map (·.token)) else none

/-- Whether a token closes what another one opens. -/
def closes : Token → Token → Bool
  | .mark .leftParen, .mark .rightParen => true
  | .mark .leftBracket, .mark .rightBracket => true
  | .mark .leftBrace, .mark .rightBrace => true
  | _, _ => false

/-- Whether all brackets balance, given those that are open, the last one first. -/
def balanced : List Token → List Token → Bool
  | stack, [] => stack.isEmpty
  | stack, t :: ts =>
    if t.opens then balanced (t :: stack) ts
    else if t.closes then
      match stack with
      | [] => false
      | opening :: stack => closes opening t && balanced stack ts
    else balanced stack ts

/-- A text that is a document of the grammar. -/
def IsDocument (text : String) : Prop :=
  ∃ ts, tokens? text = some ts ∧ Reads (.symbol .document) ts [] ∧ balanced [] ts = true

end SchemaSdk.Executable
