import SchemaSdk.Text.Alphanumeric
import SchemaSdk.Text.LetterCase

/-!
# Words of a name

A name is read as a sequence of words, which every casing writes in its own way. Characters that are
neither letters nor numbers separate words. Within a piece free of them a word ends after a lower
case character before an upper case one, and a run of upper case characters gives its last one to
the word that follows in lower case: `getHTTPResponse` is `get`, `HTTP` and `Response`.
-/
namespace SchemaSdk.Text

/-- The case of the last cased character of the word read so far. -/
inductive WordCase where
  | none
  | lower
  | upper
  deriving DecidableEq

/-- The case of a word after one more character; a character without case keeps it. -/
def WordCase.after (w : WordCase) (c : Char) : WordCase :=
  if isLowercase c then .lower else if isUppercase c then .upper else w

/-- The maximal pieces of letters and numbers, `piece` being the reversed start of the first. -/
def piecesFrom (piece : List Char) : List Char → List (List Char)
  | [] => if piece.isEmpty then [] else [piece.reverse]
  | c :: r =>
    if isAlphanumeric c then piecesFrom (c :: piece) r
    else if piece.isEmpty then piecesFrom [] r
    else piece.reverse :: piecesFrom [] r

/-- The words of a piece, `word` being the reversed start of the first and `w` its case. -/
def wordsFrom (w : WordCase) (word : List Char) : List Char → List (List Char)
  | [] => if word.isEmpty then [] else [word.reverse]
  | [c] => [(c :: word).reverse]
  | c :: d :: r =>
    if w.after c = .lower ∧ isUppercase d then
      (c :: word).reverse :: wordsFrom .none [] (d :: r)
    else if w = .upper ∧ isUppercase c ∧ isLowercase d then
      word.reverse :: wordsFrom .none [c] (d :: r)
    else wordsFrom (w.after c) (c :: word) (d :: r)

/-- The words of a name. -/
def words (s : List Char) : List (List Char) :=
  (piecesFrom [] s).flatMap (wordsFrom .none [])

/-- A word in lower case. A sigma that ends it takes its final form. -/
def lowercaseWord : List Char → List Char
  | [] => []
  | ['Σ'] => ['ς']
  | c :: r => lowercase c ++ lowercaseWord r

/-- A word in lower case but for its first character. -/
def capitalizedWord : List Char → List Char
  | [] => []
  | c :: r => uppercase c ++ lowercaseWord r

/-- Lower case words joined by underscores. -/
def snakeChars (s : List Char) : List Char :=
  ['_'].intercalate ((words s).map lowercaseWord)

/-- Capitalized words written together. -/
def pascalChars (s : List Char) : List Char :=
  (words s).flatMap capitalizedWord

/-- A lower case word followed by capitalized ones. -/
def camelChars (s : List Char) : List Char :=
  match words s with
  | [] => []
  | w :: ws => lowercaseWord w ++ ws.flatMap capitalizedWord

/-- A name as `lower_case_words`. -/
def snakeCase (s : String) : String := String.ofList (snakeChars s.toList)

/-- A name as `CapitalizedWords`. -/
def pascalCase (s : String) : String := String.ofList (pascalChars s.toList)

/-- A name as `lowerThenCapitalized`. -/
def camelCase (s : String) : String := String.ofList (camelChars s.toList)

/-- A text with every character in lower case. -/
def lowerCase (s : String) : String := String.ofList (s.toList.flatMap lowercase)

/-- A text with every character in upper case. -/
def upperCase (s : String) : String := String.ofList (s.toList.flatMap uppercase)

end SchemaSdk.Text
