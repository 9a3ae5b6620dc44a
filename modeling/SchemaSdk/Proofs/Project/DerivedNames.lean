import SchemaSdk.Project.Settings
import SchemaSdk.Proofs.Sdk.Outline
import SchemaSdk.Proofs.Text.PascalCase

/-!
# Client names taken from schema files

Without a client name the settings take one from the file of the schema. The stem of the file is
cased when it is taken, and once more when the client type is named after it; a name that is given
is cased once. So the two agree exactly if the cased stem is left as it is by casing. The letter C
rules out that the ending `Client`, which is written where it is missing, makes up for a difference:
no casing makes or loses that letter.
-/
namespace SchemaSdk.Text

/-! ## The letter C -/

/-- Whether a character is the letter C. -/
def isLetterC (c : Char) : Bool := c == 'c' || c == 'C'

theorem isLetterC_iff {c : Char} :
    isLetterC c = true ↔ c.toNat = 'c'.toNat ∨ c.toNat = 'C'.toNat := by
  rw [isLetterC, Bool.or_eq_true, beq_iff_eq, beq_iff_eq, Char.toNat_inj, Char.toNat_inj]

theorem isLetterC_of_not_ascii {c : Char} (hc : ¬ c.toNat < 0x80) : isLetterC c = false := by
  rw [← Bool.not_eq_true, isLetterC_iff]
  rintro (h | h)
  · exact hc (h ▸ by decide)
  · exact hc (h ▸ by decide)

/-- A table of sound shifts to other letters makes no letter C. -/
theorem isLetterC_shifted? {table : List Shift} (h : ∀ s ∈ table, s.isSound = true ∧
      s.imageRun.contains 'c'.toNat = false ∧ s.imageRun.contains 'C'.toNat = false) {c : Char}
    (hc : ¬ c.toNat < 0x80) :
    isLetterC (((shifted? table c.toNat).map Char.ofNat).getD c) = false := by
  rw [shifted?]
  cases hfound : table.find? (·.run.contains c.toNat) with
  | none => exact isLetterC_of_not_ascii hc
  | some s =>
    obtain ⟨hsound, hlower, hupper⟩ := h s (List.mem_of_find?_eq_some hfound)
    have hrun := List.find?_some hfound
    have himage := Shift.contains_imageRun hrun
    rw [Option.map_some, Option.map_some, Option.getD_some, ← Bool.not_eq_true, isLetterC_iff,
      Shift.toNat_ofNat_image hsound hrun]
    rintro (heq | heq)
    · rw [heq, hlower] at himage
      cases himage
    · rw [heq, hupper] at himage
      cases himage

theorem countP_lowercase (c : Char) :
    (lowercase c).countP isLetterC = [c].countP isLetterC := by
  have hshifts : ∀ s ∈ lowercaseShifts, s.isSound = true ∧
      s.imageRun.contains 'c'.toNat = false ∧ s.imageRun.contains 'C'.toNat = false := by
    decide +kernel
  unfold lowercase
  split
  · next hc =>
    exact forall_ascii (P := fun c => [c.toLower].countP isLetterC = [c].countP isLetterC)
      (by decide) c hc
  · next hc =>
    rw [List.countP_singleton (a := c), isLetterC_of_not_ascii hc]
    split
    · rfl
    · rw [List.countP_singleton, isLetterC_shifted? hshifts hc]

theorem countP_uppercase (c : Char) :
    (uppercase c).countP isLetterC = [c].countP isLetterC := by
  have hshifts : ∀ s ∈ uppercaseShifts, s.isSound = true ∧
      s.imageRun.contains 'c'.toNat = false ∧ s.imageRun.contains 'C'.toNat = false := by
    decide +kernel
  have hexpansions : ∀ e ∈ uppercaseExpansions, (e.2.map Char.ofNat).countP isLetterC = 0 := by
    decide +kernel
  unfold uppercase
  split
  · next hc =>
    exact forall_ascii (P := fun c => [c.toUpper].countP isLetterC = [c].countP isLetterC)
      (by decide) c hc
  · next hc =>
    rw [List.countP_singleton (a := c), isLetterC_of_not_ascii hc]
    split
    · next hfound => exact hexpansions _ (List.mem_of_find?_eq_some hfound)
    · rw [List.countP_singleton, isLetterC_shifted? hshifts hc]

theorem countP_lowercaseWord (v : List Char) :
    (lowercaseWord v).countP isLetterC = v.countP isLetterC := by
  fun_induction lowercaseWord v with
  | case1 => rfl
  | case2 => rfl
  | case3 c r _ ih => rw [List.countP_append, countP_lowercase, ih, ← List.countP_append]; rfl

theorem countP_capitalizedWord (v : List Char) :
    (capitalizedWord v).countP isLetterC = v.countP isLetterC := by
  cases v with
  | nil => rfl
  | cons c r =>
    rw [capitalizedWord, List.countP_append, countP_uppercase, countP_lowercaseWord,
      ← List.countP_append]
    rfl

/-- **The letter C** is in a name in pascal case as often as in the name. -/
theorem countP_pascalChars (s : List Char) :
    (pascalChars s).countP isLetterC = s.countP isLetterC := by
  have hletters : (letters s).countP isLetterC = s.countP isLetterC := by
    have halnum : ∀ c, isLetterC c = true → isAlphanumeric c = true := by
      intro c hc
      rw [isLetterC, Bool.or_eq_true, beq_iff_eq, beq_iff_eq] at hc
      rcases hc with rfl | rfl <;> decide
    rw [letters, List.countP_filter]
    refine List.countP_congr fun c _ => ?_
    simpa using halnum c
  rw [← hletters, ← flatten_words, pascalChars, List.countP_flatMap, List.countP_flatten]
  exact congrArg List.sum (List.map_congr_left fun v _ => countP_capitalizedWord v)

end SchemaSdk.Text

namespace SchemaSdk.Identifier

open SchemaSdk.Text

/-- **A name cased twice** names the client type as the name cased once does exactly if casing it
again leaves it as it is. -/
theorem client_pascalCase_eq_iff (name : String) :
    client (pascalCase name) = client name ↔ IsPascal (pascalCase name).toList := by
  have hfixed : pascalCase (pascalCase name) = pascalCase name ↔
      IsPascal (pascalCase name).toList := by
    rw [← pascalChars_eq_self_iff, ← String.toList_inj, pascalCase, String.toList_ofList]
  have hcount : (pascalCase (pascalCase name)).toList.countP isLetterC =
      (pascalCase name).toList.countP isLetterC := by
    rw [pascalCase, String.toList_ofList, countP_pascalChars]
  have hending : "Client".toList.countP isLetterC = 1 := by decide
  rw [← hfixed]
  generalize hpascal : pascalCase name = once at *
  generalize htwice : pascalCase once = twice at *
  -- An ending that only one of them lacks has a C more.
  have hother {a b : String} (hC : a.toList.countP isLetterC = b.toList.countP isLetterC) :
      a ≠ b ++ "Client" := by
    rintro rfl
    rw [String.toList_append, List.countP_append, hending] at hC
    omega
  unfold client
  dsimp only
  rw [hpascal, htwice]
  split <;> split
  · rfl
  · next hends hlacks => exact iff_of_false (hother hcount) (fun h => hlacks (h ▸ hends))
  · next hlacks hends => exact iff_of_false (hother hcount.symm).symm (fun h => hlacks (h ▸ hends))
  · rw [← String.toList_inj, String.toList_append, String.toList_append, List.append_left_inj,
      String.toList_inj]

end SchemaSdk.Identifier

namespace SchemaSdk.Sdk

theorem clientFile_congr {o o' : Options}
    (h : Identifier.client o.clientName = Identifier.client o'.clientName) :
    o.clientFile = o'.clientFile := by
  rw [Options.clientFile, Options.clientFile, h]

/-- The name of the client matters only in what the client type is called. -/
theorem generate_congr {o o' : Options}
    (hclient : Identifier.client o.clientName = Identifier.client o'.clientName)
    (hschema : o.schemaName = o'.schemaName) (hendpoint : o.endpoint = o'.endpoint)
    (sdl : String) : generate sdl o = generate sdl o' := by
  have hother : o.schemaFile = o'.schemaFile := by
    rw [Options.schemaFile, Options.schemaFile, hschema]
  unfold generate render
  simp only [hclient, hschema, hendpoint, clientFile_congr hclient, hother]

end SchemaSdk.Sdk

namespace SchemaSdk.Project.Settings

open SchemaSdk.Sdk SchemaSdk.Text

theorem derivedName?_eq_some {path stem : String} (hstem : Path.fileStem? path = some stem)
    (hne : pascalCase stem ≠ "") : derivedName? path = some (pascalCase stem) := by
  have hvisible : (pascalCase stem).isEmpty = false := by
    rw [← Bool.not_eq_true, String.isEmpty_iff]
    exact hne
  rw [derivedName?, hstem]
  simp [hvisible]

/-- **A client name taken from the schema file.** Choices that leave the client name open are
resolved as they are with the cased stem of the schema file for it. Compared with choices that give
the stem itself, the client type and the file of the client module have the same names exactly if
every capital of the cased stem is where a word starts; then the same is generated from any schema.
So it is if all words of the stem start with two letters. -/
theorem resolve_of_stem {file overrides : Choices} {path stem : String}
    (hschema : (overrides.orElse file).schema = some path)
    (hopen : (overrides.orElse file).clientName = none)
    (hstem : Path.fileStem? path = some stem) (hne : pascalCase stem ≠ "") :
    ∃ derived given,
      resolve file overrides = .ok derived ∧
      resolve file { overrides with clientName := some stem } = .ok given ∧
      given.options.clientName = stem ∧
      derived = { given with options.clientName := pascalCase stem } ∧
      (Identifier.client derived.options.clientName = Identifier.client given.options.clientName ∧
          derived.options.clientFile = given.options.clientFile ↔
        IsPascal (pascalCase stem).toList) ∧
      (IsPascal (pascalCase stem).toList →
        ∀ sdl, generate sdl derived.options = generate sdl given.options) ∧
      ((∀ w ∈ words stem.toList, StartsWithLetters w) → IsPascal (pascalCase stem).toList) := by
  have hname := derivedName?_eq_some hstem hne
  have hiff := Identifier.client_pascalCase_eq_iff stem
  have hwords : (∀ w ∈ words stem.toList, StartsWithLetters w) →
      IsPascal (pascalCase stem).toList := by
    intro h
    rw [pascalCase, String.toList_ofList]
    exact isPascal_pascalChars h
  generalize pascalCase stem = cased at *
  let given : Settings := {
    schema := path
    outDir := (overrides.orElse file).outDir.getD defaultOutDir
    options := ⟨stem, (overrides.orElse file).schemaName, (overrides.orElse file).endpoint⟩ }
  let derived : Settings := { given with options.clientName := cased }
  refine ⟨derived, given, ?_, ?_, rfl, rfl, ?_, ?_, hwords⟩
  · rw [resolve, ofChoices, hschema]
    simp only [hopen, hname, Option.none_or]
    rfl
  · have hoverrides : { overrides with clientName := some stem }.orElse file =
        { overrides.orElse file with clientName := some stem } := rfl
    rw [resolve, ofChoices, hoverrides]
    simp only [hschema]
    rfl
  · rw [← hiff]
    exact ⟨And.left, fun h => ⟨h, clientFile_congr (o := derived.options) h⟩⟩
  · exact fun hpascal => generate_congr (o := derived.options) (hiff.mpr hpascal) rfl rfl

/-- A stem with an acronym and a number, chosen on the command line over the schema of a file. -/
theorem resolve_of_stem_acronym :
    let file : Choices := ⟨some "movies.graphql", none, some "types", none, none⟩
    let overrides : Choices := { Choices.none with schema := some "schemas/myHTTPApi-v2.graphql" }
    ∃ derived given, resolve file overrides = .ok derived ∧
      resolve file { overrides with clientName := some "myHTTPApi-v2" } = .ok given ∧
      derived.options.clientName = "MyHttpApiV2" ∧
      Identifier.client derived.options.clientName = Identifier.client given.options.clientName ∧
      derived.options.clientFile = given.options.clientFile ∧
      ∀ sdl, generate sdl derived.options = generate sdl given.options := by
  intro file overrides
  have hcased : pascalCase "myHTTPApi-v2" = "MyHttpApiV2" := by decide
  have hpascal : IsPascal (pascalCase "myHTTPApi-v2").toList := by
    rw [hcased]
    exact pascalChars_eq_self_iff.mp (by decide)
  obtain ⟨derived, given, hderived, hgiven, _, rfl, hiff, hsame, _⟩ :=
    @resolve_of_stem file overrides "schemas/myHTTPApi-v2.graphql" "myHTTPApi-v2" rfl rfl
      (by decide) (by decide)
  obtain ⟨hclient, hfile⟩ := hiff.mpr hpascal
  exact ⟨_, given, hderived, hgiven, hcased, hclient, hfile, hsame hpascal⟩

/-- Of two words of one letter the cased stem makes one. -/
theorem resolve_of_oneLetterWords :
    let overrides : Choices := { Choices.none with schema := some "a_b.graphql" }
    ∃ derived given, resolve .none overrides = .ok derived ∧
      resolve .none { overrides with clientName := some "a_b" } = .ok given ∧
      Identifier.client derived.options.clientName = "AbClient" ∧
      Identifier.client given.options.clientName = "ABClient" := by
  have hderived : derivedName? "a_b.graphql" = some "AB" := by decide
  refine ⟨⟨"a_b.graphql", defaultOutDir, ⟨"AB", none, none⟩⟩,
    ⟨"a_b.graphql", defaultOutDir, ⟨"a_b", none, none⟩⟩, ?_, rfl, by decide, by decide⟩
  simp [resolve, ofChoices, Choices.orElse, Choices.none, hderived]

end SchemaSdk.Project.Settings
