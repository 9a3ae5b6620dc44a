import SchemaSdk.Proofs.Sdk.ClientText
import SchemaSdk.Proofs.Sdk.Identifiers
import SchemaSdk.Proofs.Text.DocComments

/-!
# Names of modules and clients

The client type and the schema module have names that the user chooses, in any script and with any
punctuation. They are cased, but not escaped. So they are identifiers exactly if the letters and
numbers of the given name may stand in one, the first may start it, and, for the module, some are
left and do not make a keyword.
-/
namespace SchemaSdk.Identifier

open SchemaSdk.Text

theorem isSpelled_iff {s : List Char} (h : s.head? ≠ some '_') :
    isSpelled s = true ↔ s.all continuesIdentifier = true ∧ s.head?.any startsIdentifier = true := by
  cases s with
  | nil => simp [isSpelled]
  | cons c r =>
    have hc : c ≠ '_' := fun hmark => h (congrArg some hmark)
    have hcontinues := continuesIdentifier_of_starts (c := c)
    simp only [isSpelled, List.all_cons, List.head?_cons, Option.any_some, Bool.and_eq_true,
      Bool.or_eq_true, beq_iff_eq, hc, false_and, or_false]
    tauto

/-- No raw identifier is without its mark. -/
theorem isRaw_eq_false {s : List Char} (h : '#' ∉ s) : isRaw s = false := by
  unfold isRaw
  split
  · simp at h
  · rfl

/-! ## The client type -/

/-- The name of the client type is the name in pascal case, with an ending if it lacks that. -/
theorem exists_toList_client (name : String) :
    ∃ ending, (client name).toList = pascalChars name.toList ++ ending ∧
      (ending = [] ∨ ending = "Client".toList) ∧ "Client".toList <:+ (client name).toList := by
  have hpascal : (pascalCase name).toList = pascalChars name.toList := by
    rw [pascalCase, String.toList_ofList]
  unfold client
  dsimp only
  split
  · next h =>
    exact ⟨[], by simp [hpascal], .inl rfl, List.isSuffixOf_iff_suffix.mp h⟩
  · refine ⟨"Client".toList, by rw [String.toList_append, hpascal], .inr rfl, ?_⟩
    rw [String.toList_append]
    exact List.suffix_append _ _

theorem head?_client (name : String) :
    (client name).toList.head? = (pascalChars name.toList).head?.or (some 'C') := by
  obtain ⟨ending, htoList, hending, hsuffix⟩ := exists_toList_client name
  rw [htoList, List.head?_append]
  cases hpascal : pascalChars name.toList with
  | nil =>
    rw [htoList, hpascal, List.nil_append] at hsuffix
    rcases hending with rfl | rfl
    · simp at hsuffix
    · rfl
  | cons c r => rfl

theorem client_not_mem_keywords (name : String) : client name ∉ keywords := by
  have hkeywords : ∀ k ∈ keywords, ¬ "Client".toList <:+ k.toList := by decide
  obtain ⟨_, _, _, hsuffix⟩ := exists_toList_client name
  exact fun hmem => hkeywords _ hmem hsuffix

theorem all_continues_client (name : String) :
    (client name).toList.all continuesIdentifier =
      (letters name.toList).all continuesIdentifier := by
  have hclient : "Client".toList.all continuesIdentifier = true :=
    all_continues_of_all_isNamePart (by decide)
  obtain ⟨ending, htoList, hending, _⟩ := exists_toList_client name
  have hall : ending.all continuesIdentifier = true := by
    rcases hending with rfl | rfl
    · rfl
    · exact hclient
  rw [htoList, List.all_append, hall, Bool.and_true, all_continues_pascalChars]

theorem any_starts_client (name : String) : (client name).toList.head?.any startsIdentifier =
    (letters name.toList).head?.all startsCapitalized := by
  have hstart : startsIdentifier 'C' = true := startsIdentifier_of_ascii (by decide)
  rw [head?_client, head?_pascalChars]
  cases (letters name.toList).head? with
  | none => exact hstart
  | some c =>
    obtain ⟨d, r, hupper⟩ := List.exists_cons_of_ne_nil (uppercase_ne_nil c)
    rw [Option.bind_some, Option.all_some, ← KeepsClass.any_head?_uppercase, hupper]
    rfl

theorem head?_client_ne (name : String) : (client name).toList.head? ≠ some '_' := by
  have hpascal := head?_pascalChars_ne name.toList
  rw [head?_client]
  cases hhead : (pascalChars name.toList).head? with
  | none => decide
  | some c => rwa [hhead] at hpascal

/-- **The client type has an identifier** exactly if the letters and numbers of the given name may
stand in one and the first of them, in upper case, may start it. -/
theorem isIdentifier_client_iff (name : String) :
    IsIdentifier (client name) ↔ (letters name.toList).all continuesIdentifier = true ∧
      (letters name.toList).head?.all startsCapitalized = true := by
  have hraw : isRaw (client name).toList = false := by
    refine isRaw_eq_false ?_
    have hpascal := notMem_pascalCase (x := '#') (by decide) (by decide) name
    unfold client
    dsimp only
    split
    · exact hpascal
    · simp [hpascal]
  rw [IsIdentifier, hraw, isPlain_iff, String.ofList_toList, isSpelled_iff (head?_client_ne name),
    all_continues_client, any_starts_client]
  simp [client_not_mem_keywords]

/-! ## The schema module -/

theorem schemaModule_some (s : String) :
    schemaModule (some s) = if trim s.toList = [] then "schema" else snakeCase s := by
  simp [schemaModule]

/-- **The schema module has an identifier** that is no keyword exactly if the given name is blank,
or some of its letters and numbers are left, may stand in an identifier, the first at its start, and
do not make a keyword in snake case. -/
theorem isPlain_schemaModule_iff (name : Option String) :
    isPlain (schemaModule name).toList = true ↔ ∀ s ∈ name, trim s.toList ≠ [] →
      (letters s.toList).all continuesIdentifier = true ∧
      (letters s.toList).head?.any startsIdentifier = true ∧ snakeCase s ∉ keywords := by
  have hdefault : isPlain "schema".toList = true := by
    rw [isPlain_iff, String.ofList_toList]
    refine ⟨isSpelled_of_starts ?_ (all_continues_of_all_isNamePart (by decide)), by decide⟩
    exact startsIdentifier_of_ascii (c := 's') (by decide)
  cases name with
  | none => exact iff_of_true hdefault nofun
  | some s =>
    rw [schemaModule_some]
    by_cases hblank : trim s.toList = []
    · rw [if_pos hblank]
      exact iff_of_true hdefault (by simp [hblank])
    · have hmark : (snakeCase s).toList.head? ≠ some '_' := by
        rw [snakeCase, String.toList_ofList]
        exact head?_snakeChars_ne s.toList
      rw [if_neg hblank, isPlain_iff, String.ofList_toList, isSpelled_iff hmark, and_assoc]
      simp [hblank, snakeCase, all_continues_snakeChars, any_starts_snakeChars]

end SchemaSdk.Identifier

namespace SchemaSdk.Sdk

open SchemaSdk.Schema SchemaSdk.Text

/-! ## Rendered packages -/

section Line

variable {l : String} (hfeed : '\n' ∉ l.toList) (hne : l.toList ≠ [])
variable (htrim : trimEnd l.toList = l.toList)

include hfeed hne htrim

theorem visibleLines_layout_cons (ls : List String) :
    visibleLines (layout (l :: ls)).toList = l.toList :: visibleLines (layout ls).toList := by
  rw [layout, layout, tidy, tidy, String.toList_ofList, String.toList_ofList,
    String.toList_ofList, String.toList_ofList, visibleLines_tidyChars_printed,
    visibleLines_tidyChars_printed, printedLines_cons, printedLines_singleton hfeed, htrim]
  simp [hne]

/-- A visible line is found in a text, whatever is printed around it. -/
theorem mem_visibleLines_layout {ls : List String} (hl : l ∈ ls) :
    l.toList ∈ visibleLines (layout ls).toList := by
  obtain ⟨before, after, rfl⟩ := List.append_of_mem hl
  rw [layout, tidy, String.toList_ofList, String.toList_ofList, visibleLines_tidyChars_printed,
    printedLines_append, printedLines_cons, printedLines_singleton hfeed, htrim]
  simp [hne]

end Line

namespace ClientModule

variable {m : ClientModule}

/-- The line that declares the client type. -/
theorem mem_visibleLines_struct (h : '\n' ∉ m.client.toList) :
    ("pub struct " ++ m.client ++ " \x7b").toList ∈ visibleLines (layout m.lines).toList := by
  have hmem : "pub struct " ++ m.client ++ " \x7b" ∈ m.construction :=
    List.mem_of_getElem? (i := 2) rfl
  refine mem_visibleLines_layout (by simp [h]) (by simp) ?_ ?_
  · exact trimEnd_toList_append _ rfl (by decide)
  · simp only [lines, List.mem_append, hmem, or_true, true_or]

/-- The line that uses the schema module. -/
theorem mem_visibleLines_use (h : '\n' ∉ m.schemaModule.toList) :
    ("use super::" ++ m.schemaModule ++ "::*;").toList ∈ visibleLines (layout m.lines).toList := by
  have hmem : "use super::" ++ m.schemaModule ++ "::*;" ∈ m.header :=
    List.mem_of_getElem? (i := 13) rfl
  refine mem_visibleLines_layout (by simp [h]) (by simp) ?_ ?_
  · exact trimEnd_toList_append _ rfl (by decide)
  · simp only [lines, List.mem_append, hmem, true_or]

end ClientModule

/-- **The names in a rendered package.** The client module declares the client type, whose name is
an identifier exactly if the letters and numbers of the given one may stand in one and the first of
them may start it. It uses the schema module, whose name is an identifier and no keyword exactly if
the given one, unless it is blank, is so made too and does not become a keyword. -/
theorem moduleNames_of_render {c : Collection} {o : Options} {p : Package}
    (h : render c o = .ok p) :
    ("pub struct " ++ Identifier.client o.clientName ++ " \x7b").toList ∈
        visibleLines p.client.text.toList ∧
      ("use super::" ++ Identifier.schemaModule o.schemaName ++ "::*;").toList ∈
        visibleLines p.client.text.toList ∧
      (Identifier.IsIdentifier (Identifier.client o.clientName) ↔
        (letters o.clientName.toList).all continuesIdentifier = true ∧
          (letters o.clientName.toList).head?.all startsCapitalized = true) ∧
      (Identifier.isPlain (Identifier.schemaModule o.schemaName).toList = true ↔
        ∀ s ∈ o.schemaName, trim s.toList ≠ [] →
          (letters s.toList).all continuesIdentifier = true ∧
          (letters s.toList).head?.any startsIdentifier = true ∧
          snakeCase s ∉ Identifier.keywords) := by
  obtain ⟨order, calls, _, _, htext, _⟩ := exists_parts_of_render h
  have hclientFeed := Identifier.feed_notMem_client o.clientName
  have hschemaFeed := Identifier.feed_notMem_schemaModule o.schemaName
  have hclient := Identifier.isIdentifier_client_iff o.clientName
  have hschema := Identifier.isPlain_schemaModule_iff o.schemaName
  -- Nothing below depends on what the names are, and nothing has to compute them.
  generalize Identifier.client o.clientName = client at *
  generalize Identifier.schemaModule o.schemaName = schema at *
  rw [htext]
  exact ⟨ClientModule.mem_visibleLines_struct (m := ⟨client, schema, o.endpoint, calls⟩) hclientFeed,
    ClientModule.mem_visibleLines_use (m := ⟨client, schema, o.endpoint, calls⟩) hschemaFeed,
    hclient, hschema⟩

/-- Names with marks and numbers, in letters beyond ASCII. -/
theorem moduleNames_of_render_beyondAscii :
    ∃ c p, Collection.parse "type Query { x: Int }" = .ok c ∧
      render c ⟨"día-2 units", some "Größe & types", none⟩ = .ok p ∧
      Identifier.client "día-2 units" = "Día2UnitsClient" ∧
      Identifier.schemaModule (some "Größe & types") = "größe_types" ∧
      Identifier.IsIdentifier (Identifier.client "día-2 units") ∧
      Identifier.isPlain (Identifier.schemaModule (some "Größe & types")).toList = true := by
  have hok : (Collection.parse "type Query { x: Int }").toOption.any (fun c =>
      (render c ⟨"día-2 units", some "Größe & types", none⟩).toOption.any fun _ => true) = true := by
    decide +kernel
  have hclient : (letters "día-2 units".toList).all continuesIdentifier = true ∧
      (letters "día-2 units".toList).head?.all startsCapitalized = true := by
    decide +kernel
  have hschema : (letters "Größe & types".toList).all continuesIdentifier = true ∧
      (letters "Größe & types".toList).head?.any startsIdentifier = true ∧
      snakeCase "Größe & types" ∉ Identifier.keywords := by
    decide +kernel
  obtain ⟨c, hparse, hok⟩ := exists_eq_ok_of_any hok
  obtain ⟨p, h, _⟩ := exists_eq_ok_of_any hok
  obtain ⟨_, _, hiff, hmodule⟩ := moduleNames_of_render h
  refine ⟨c, p, hparse, h, by decide +kernel, by decide, hiff.mpr hclient, ?_⟩
  refine hmodule.mpr fun s hs _ => ?_
  obtain rfl := Option.mem_some_iff.mp hs
  exact hschema

/-- A client named after a number and a module named after a keyword. -/
theorem moduleNames_of_threeD :
    ∃ p, generate "type Query { x: Int }" ⟨"3d", some "type", none⟩ = .ok p ∧
      "pub struct 3dClient \x7b".toList ∈ visibleLines p.client.text.toList ∧
      "use super::type::*;".toList ∈ visibleLines p.client.text.toList ∧
      ¬ Identifier.IsIdentifier "3dClient" ∧ Identifier.isPlain "type".toList = false := by
  have hok : (generate "type Query { x: Int }" ⟨"3d", some "type", none⟩).toOption.any
      (fun _ => true) = true := by decide +kernel
  have hclient : Identifier.client "3d" = "3dClient" := by decide
  have hschema : Identifier.schemaModule (some "type") = "type" := by decide
  obtain ⟨p, h, _⟩ := exists_eq_ok_of_any hok
  obtain ⟨c, order, calls, _, _, _, htext, _⟩ := exists_parts_of_generate h
  rw [hclient, hschema] at htext
  have hclientFeed : '\n' ∉ "3dClient".toList := by decide
  have hschemaFeed : '\n' ∉ "type".toList := by decide
  refine ⟨p, h, ?_, ?_, by decide +kernel, by decide⟩
  · rw [htext]
    exact ClientModule.mem_visibleLines_struct (m := ⟨"3dClient", "type", none, calls⟩) hclientFeed
  · rw [htext]
    exact ClientModule.mem_visibleLines_use (m := ⟨"3dClient", "type", none, calls⟩) hschemaFeed

end SchemaSdk.Sdk
