import SchemaSdk.Proofs.Schema.Parsed
import SchemaSdk.Proofs.Text.IdentifierCharacters
import SchemaSdk.Sdk.Identifier

/-!
# Identifiers of the language

What the language of the generated code takes as an identifier: a start and what may follow it, if
that is not a keyword, or any such word behind the mark of raw identifiers, if it may be raw. The
name of a field, a type or a variant becomes one, whatever case and escape make of it, unless it is
written in underscores alone, of which nothing is left.
-/
namespace SchemaSdk.Identifier

open SchemaSdk.Schema SchemaSdk.Text

/-! ## The grammar -/

/-- The words that have a meaning in the language. -/
def strictKeywords : List String := [
  "as", "async", "await", "break", "const", "continue", "crate", "dyn", "else", "enum", "extern",
  "false", "fn", "for", "if", "impl", "in", "let", "loop", "match", "mod", "move", "mut", "pub",
  "ref", "return", "self", "Self", "static", "struct", "super", "trait", "true", "type", "unsafe",
  "use", "where", "while"]

/-- The words that may have a meaning one day. -/
def futureKeywords : List String := [
  "abstract", "become", "box", "do", "final", "gen", "macro", "override", "priv", "try", "typeof",
  "unsized", "virtual", "yield"]

/-- The words that are no identifiers as they stand. -/
def keywords : List String := strictKeywords ++ futureKeywords

/-- The keywords that name places in the tree of modules or a type, and are never raw. -/
def neverRaw : List String := ["crate", "self", "Self", "super"]

/-- Whether the characters are spelled like an identifier: a start, or an underscore that is not
alone, and what may follow. -/
def isSpelled : List Char → Bool
  | [] => false
  | c :: r => (startsIdentifier c || c == '_' && !r.isEmpty) && r.all continuesIdentifier

/-- Whether the characters are an identifier as they stand. -/
def isPlain (s : List Char) : Bool := isSpelled s && !keywords.contains (String.ofList s)

/-- Whether the characters are a raw identifier. -/
def isRaw : List Char → Bool
  | 'r' :: '#' :: r => isSpelled r && !neverRaw.contains (String.ofList r)
  | _ => false

/-- The text is an identifier, as it stands or as a raw one. -/
def IsIdentifier (s : String) : Prop := isPlain s.toList = true ∨ isRaw s.toList = true

instance : DecidablePred IsIdentifier := fun s =>
  inferInstanceAs (Decidable (isPlain s.toList = true ∨ isRaw s.toList = true))

/-- Every keyword is escaped in one of two ways. -/
theorem mem_keywords_iff (s : String) : s ∈ keywords ↔ s ∈ reservedKeywords ∨ s ∈ rawKeywords := by
  rw [← List.mem_append]
  refine ⟨fun h => ?_, fun h => ?_⟩
  · have hall : ∀ k ∈ keywords, k ∈ reservedKeywords ++ rawKeywords := by decide
    exact hall s h
  · have hall : ∀ k ∈ reservedKeywords ++ rawKeywords, k ∈ keywords := by decide
    exact hall s h

theorem isPlain_iff {s : List Char} :
    isPlain s = true ↔ isSpelled s = true ∧ String.ofList s ∉ keywords := by
  simp [isPlain]

theorem isSpelled_of_starts {s : List Char} (hhead : s.head?.any startsIdentifier = true)
    (hall : s.all continuesIdentifier = true) : isSpelled s = true := by
  cases s with
  | nil => cases hhead
  | cons c r =>
    rw [List.all_cons, Bool.and_eq_true] at hall
    simp only [List.head?_cons, Option.any_some] at hhead
    rw [isSpelled, hhead, hall.2]
    rfl

theorem isRaw_append (s : String) :
    isRaw ("r#" ++ s).toList = (isSpelled s.toList && !neverRaw.contains s) := by
  have htoList : ("r#" ++ s).toList = 'r' :: '#' :: s.toList := by simp
  rw [htoList, isRaw, String.ofList_toList]

/-! ## Escapes -/

/-- A cased name that has something to start with becomes an identifier. -/
theorem isIdentifier_escape {s : String} (hall : s.toList.all continuesIdentifier = true)
    (hhead : s.toList.head?.any (fun c => startsIdentifier c || c.isDigit) = true) :
    IsIdentifier (escape s) := by
  have hreserved : ∀ k ∈ reservedKeywords, isPlain (k ++ "_").toList = true := by decide +kernel
  have hraw : ∀ k ∈ rawKeywords, (isSpelled k.toList && !neverRaw.contains k) = true := by
    decide +kernel
  have hmark : ∀ k ∈ keywords, k.toList.head? ≠ some '_' := by decide +kernel
  unfold escape
  split
  · next h => exact .inl (hreserved s (List.contains_iff_mem.mp h))
  split
  · next h => exact .inr ((isRaw_append s).trans (hraw s (List.contains_iff_mem.mp h)))
  next hnotReserved hnotRaw =>
  have hkeyword : s ∉ keywords := by
    rw [mem_keywords_iff, not_or]
    exact ⟨by simpa using hnotReserved, by simpa using hnotRaw⟩
  cases hs : s.toList with
  | nil => simp [hs] at hhead
  | cons c r =>
    rw [hs, List.head?_cons, Option.any_some] at hhead
    left
    split
    · rw [String.toList_append, hs, isPlain_iff]
      refine ⟨?_, fun hk => hmark _ hk (by simp)⟩
      rw [hs] at hall
      have hunderscore : continuesIdentifier '_' = true := continuesIdentifier_of_ascii (by decide)
      simp [isSpelled, hall]
    · next hdigit =>
      rw [hs, isPlain_iff, ← hs, String.ofList_toList]
      refine ⟨isSpelled_of_starts ?_ hall, hkeyword⟩
      simpa [hs, show ¬ c.isDigit = true from hdigit] using hhead

/-- What is cased to nothing stays nothing, and everything else becomes an identifier. -/
theorem isIdentifier_escape_iff {s : String} (hparts : ∀ c ∈ s.toList, isNamePart c = true)
    (hmark : s.toList.head? ≠ some '_') : IsIdentifier (escape s) ↔ s.toList ≠ [] := by
  have hempty : ¬ IsIdentifier (escape "") := by decide
  constructor
  · intro h hnil
    obtain rfl : s = "" := String.toList_inj.mp hnil
    exact hempty h
  · intro hne
    obtain ⟨c, r, hs⟩ := List.exists_cons_of_ne_nil hne
    have hpart : isNamePart c = true := hparts c (by simp [hs])
    have hascii := ascii_of_isNamePart hpart
    refine isIdentifier_escape (all_continues_of_all_isNamePart (List.all_eq_true.mpr hparts)) ?_
    rw [hs, List.head?_cons] at hmark ⊢
    have hletter : c.isAlpha = true ∨ c.isDigit = true := by
      simp only [isNamePart, Bool.or_eq_true, beq_iff_eq, Char.isAlphanum] at hpart
      exact hpart.resolve_left fun hc => hmark (congrArg some hc)
    simpa [startsIdentifier_of_ascii hascii] using hletter

/-! ## Names -/

section Name

variable {name : String} (h : IsName name)

include h

/-- The letters and digits of a name are all of it but the underscores. -/
theorem letters_eq_nil_iff : letters name.toList = [] ↔ ∀ c ∈ name.toList, c = '_' := by
  rw [letters, List.filter_eq_nil_iff]
  refine forall₂_congr fun c hc => ?_
  have hpart := isNamePart_of_spellsName h c hc
  have hmark : '_'.isAlphanum = false := by decide
  rw [isAlphanumeric_of_ascii (ascii_of_isNamePart hpart)]
  simp only [isNamePart, Bool.or_eq_true, beq_iff_eq] at hpart
  constructor
  · exact hpart.resolve_right
  · rintro rfl
    simp [hmark]

theorem isIdentifier_ofField_iff : IsIdentifier (ofField name) ↔ ∃ c ∈ name.toList, c ≠ '_' := by
  have hparts : ∀ c ∈ (snakeCase name).toList, isNamePart c = true := fun c hc => by
    rw [snakeCase, String.toList_ofList] at hc
    exact isNamePart_of_mem_snakeChars (ascii_of_spellsName h) hc
  have hmark : (snakeCase name).toList.head? ≠ some '_' := by
    rw [snakeCase, String.toList_ofList]
    exact head?_snakeChars_ne _
  rw [ofField, isIdentifier_escape_iff hparts hmark, snakeCase, String.toList_ofList, Ne,
    snakeChars_eq_nil_iff, letters_eq_nil_iff h]
  push Not
  rfl

theorem isIdentifier_ofType_iff : IsIdentifier (ofType name) ↔ ∃ c ∈ name.toList, c ≠ '_' := by
  have hmark : (pascalCase name).toList.head? ≠ some '_' := by
    rw [pascalCase, String.toList_ofList]
    exact head?_pascalChars_ne _
  rw [ofType, isIdentifier_escape_iff (fun _ hc => isNamePart_of_mem_pascalCase h hc) hmark,
    pascalCase, String.toList_ofList, Ne, pascalChars_eq_nil_iff, letters_eq_nil_iff h]
  push Not
  rfl

end Name

/-- **The names of a schema become identifiers**, of fields as of types: letters, digits and
underscores that start like an identifier and are no keyword, or such a word behind the mark of raw
identifiers that may stand there. Only a name that is written in underscores alone becomes none. -/
theorem isIdentifier_of_isName {name : String} (h : IsName name) :
    (IsIdentifier (ofField name) ↔ ∃ c ∈ name.toList, c ≠ '_') ∧
    (IsIdentifier (ofType name) ↔ ∃ c ∈ name.toList, c ≠ '_') ∧
    Uses isPart (ofField name) ∧ Uses isPart (ofType name) :=
  ⟨isIdentifier_ofField_iff h, isIdentifier_ofType_iff h,
    uses_iff.mpr fun _ hc => isPart_of_mem_ofField h hc,
    uses_iff.mpr fun _ hc => isPart_of_mem_ofType h hc⟩

/-- A name that starts with a digit behind its underscores, and one that becomes a keyword. -/
theorem isIdentifier_of_isName_selfAndDigits :
    IsIdentifier (ofField "__3d") ∧ IsIdentifier (ofType "_self") ∧
      ofField "__3d" = "_3d" ∧ ofType "_self" = "Self_" := by
  have hdigits : IsName "__3d" := by
    unfold IsName
    decide
  have hself : IsName "_self" := by
    unfold IsName
    decide
  exact ⟨(isIdentifier_of_isName hdigits).1.mpr ⟨'3', by decide, by decide⟩,
    (isIdentifier_of_isName hself).2.1.mpr ⟨'s', by decide, by decide⟩, by decide, by decide⟩

/-- A name of one underscore becomes nothing. -/
theorem not_isIdentifier_underscore :
    IsName "_" ∧ ofField "_" = "" ∧ ofType "_" = "" ∧
      ¬ IsIdentifier (ofField "_") ∧ ¬ IsIdentifier (ofType "_") := by
  unfold IsName
  decide

end SchemaSdk.Identifier
