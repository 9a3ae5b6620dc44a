import SchemaSdk.Proofs.Project.Written
import SchemaSdk.Proofs.Sdk.ModuleNames

/-!
# Names of the files of a package

The file of the client module is named after the client type and that of the schema module after the
name that the user gives it, if any. Nothing keeps the two apart but that the first ends like a
client: they are the same file exactly if the given name becomes that of the client type in snake
case. Then the schema module, which is written last, is all that is left of a written package.
-/
namespace SchemaSdk.Sdk

open SchemaSdk.Text

/-! ## Names -/

/-- The name of the client module ends like `client`. -/
theorem getLast?_snakeCase_client (name : String) :
    (snakeCase (Identifier.client name)).toList.getLast? = some 't' := by
  have hclient : letters "Client".toList = "Clien".toList ++ ['t'] := by decide
  obtain ⟨_, _, _, before, hbefore⟩ := Identifier.exists_toList_client name
  have hletters : letters (Identifier.client name).toList =
      (letters before ++ "Clien".toList) ++ ['t'] := by
    rw [← hbefore, letters, List.filter_append, ← letters, ← letters, hclient, List.append_assoc]
  rw [snakeCase, String.toList_ofList, getLast?_snakeChars hletters (by decide)]
  rfl

/-- **The two files have one name** exactly if the schema module is given the name of the client
type, up to what snake case does to them. -/
theorem clientFile_ne_schemaFile_iff (o : Options) : o.clientFile ≠ o.schemaFile ↔
    ∀ s ∈ o.schemaName, trim s.toList ≠ [] →
      snakeCase (Identifier.client o.clientName) ≠ snakeCase s := by
  have hlast := getLast?_snakeCase_client o.clientName
  have hdefault : snakeCase (Identifier.client o.clientName) ≠ "schema" := by
    intro heq
    rw [heq] at hlast
    exact absurd hlast (by decide)
  have hstem : o.clientFile = o.schemaFile ↔
      snakeCase (Identifier.client o.clientName) = Identifier.schemaModule o.schemaName := by
    rw [Options.clientFile, Options.schemaFile, ← String.toList_inj, ← String.toList_inj,
      String.toList_append, String.toList_append, List.append_left_inj]
  generalize snakeCase (Identifier.client o.clientName) = stem at *
  rw [Ne, hstem]
  cases o.schemaName with
  | none => exact iff_of_true hdefault nofun
  | some s =>
    by_cases hblank : trim s.toList = []
    · simp [Identifier.schemaModule_some, hblank, hdefault]
    · simp [Identifier.schemaModule_some, hblank]

/-! ## Texts -/

/-- The two modules start with lines of their own, so their texts differ. -/
theorem client_text_ne_schema_text {c : Schema.Collection} {o : Options} {p : Package}
    (h : render c o = .ok p) : p.client.text ≠ p.schema.text := by
  obtain ⟨order, calls, _, _, hclient, hschema⟩ := exists_parts_of_render h
  have hclientLine (ls : List String) := visibleLines_layout_cons
    (l := "//! GraphQL client generated by sdkgen.") (by decide) (by decide) (by decide) ls
  have hschemaLine (ls : List String) := visibleLines_layout_cons
    (l := "//! Data types generated from a GraphQL schema by sdkgen.")
    (by decide) (by decide) (by decide) ls
  intro heq
  rw [hclient, hschema, ClientModule.lines, ClientModule.header, SchemaModule.lines,
    SchemaModule.header] at heq
  have hlines := congrArg (fun t => visibleLines t.toList) heq
  simp only [List.cons_append, hclientLine, hschemaLine] at hlines
  exact absurd (List.cons.inj hlines).1 (by decide)

end SchemaSdk.Sdk

namespace SchemaSdk.Project

open SchemaSdk.Schema SchemaSdk.Sdk

/-! ## Written packages -/

theorem paths_of_writePackage {fs fs' : FileSystem} {cwd : Location} {p : Package}
    {directory : String} {paths : List String}
    (h : writePackage fs cwd p directory = (fs', .ok paths)) :
    paths = packagePaths p directory := by
  rw [writePackage] at h
  split at h
  · cases h
  split at h
  · cases h
  split at h
  · cases h
  cases h
  rfl

/-- **The files of a rendered package** have two names exactly if the schema module is not given the
name of the client type. However the package is written, its paths are those of the two names. If
these differ, they lead to two files with the text of one module each; if not, there is one file,
and it has the text of the schema module, which is not that of the client module. -/
theorem files_of_render {c : Collection} {o : Options} {p : Package} (h : render c o = .ok p) :
    p.client.text ≠ p.schema.text ∧
    (p.client.name ≠ p.schema.name ↔ ∀ s ∈ o.schemaName, Text.trim s.toList ≠ [] →
      Text.snakeCase (Identifier.client o.clientName) ≠ Text.snakeCase s) ∧
    ∀ (fs fs' : FileSystem) (cwd : Location) (directory : String) (paths : List String),
      writePackage fs cwd p directory = (fs', .ok paths) →
        paths = [Path.join directory p.client.name, Path.join directory p.schema.name] ∧
        fs'.read cwd (Path.join directory p.schema.name) = .ok p.schema.text ∧
        (p.client.name ≠ p.schema.name →
          FileSystem.placeOf cwd (Path.join directory p.client.name) ≠
            FileSystem.placeOf cwd (Path.join directory p.schema.name) ∧
          fs'.read cwd (Path.join directory p.client.name) = .ok p.client.text) ∧
        (p.client.name = p.schema.name →
          fs'.read cwd (Path.join directory p.client.name) = .ok p.schema.text) := by
  obtain ⟨hclient, hschema⟩ := names_of_render h
  have hclientFile : Path.IsFileName p.client.name := hclient ▸ isFileName_clientFile o
  have hschemaFile : Path.IsFileName p.schema.name := hschema ▸ isFileName_schemaFile o
  refine ⟨client_text_ne_schema_text h, by rw [hclient, hschema, clientFile_ne_schemaFile_iff], ?_⟩
  intro fs fs' cwd directory paths hwrite
  obtain ⟨hreadSchema, hreadClient⟩ := read_of_writePackage hclientFile hschemaFile hwrite
  refine ⟨paths_of_writePackage hwrite, hreadSchema, fun hnames => ⟨?_, hreadClient hnames⟩, ?_⟩
  · rw [FileSystem.placeOf_join hclientFile, FileSystem.placeOf_join hschemaFile]
    intro hplaces
    exact hnames (List.singleton_inj.mp (List.append_cancel_left hplaces))
  · intro hnames
    rw [hnames]
    exact hreadSchema

/-- A schema module whose name comes close to that of the client type. -/
theorem files_of_render_client :
    ∃ c p fs paths, Collection.parse "type Query { x: Int }" = .ok c ∧
      render c ⟨"Cine", some "cine client 2", none⟩ = .ok p ∧
      writePackage .empty [] p "out" = (fs, .ok paths) ∧
      paths = ["out/cine_client.rs", "out/cine_client_2.rs"] ∧
      fs.read [] "out/cine_client.rs" = .ok p.client.text ∧
      fs.read [] "out/cine_client_2.rs" = .ok p.schema.text := by
  have hok : (Collection.parse "type Query { x: Int }").toOption.any (fun c =>
      (render c ⟨"Cine", some "cine client 2", none⟩).toOption.any fun p =>
        (writePackage .empty [] p "out").2.toOption.any fun _ => true) = true := by
    decide +kernel
  have hfiles : Options.clientFile ⟨"Cine", some "cine client 2", none⟩ = "cine_client.rs" ∧
      Options.schemaFile ⟨"Cine", some "cine client 2", none⟩ = "cine_client_2.rs" := by
    decide
  obtain ⟨c, hparse, hok⟩ := exists_eq_ok_of_any hok
  obtain ⟨p, h, hok⟩ := exists_eq_ok_of_any hok
  obtain ⟨paths, hpaths, _⟩ := exists_eq_ok_of_any hok
  have hwrite : writePackage .empty [] p "out" =
    ((writePackage .empty [] p "out").1, .ok paths) := Prod.ext rfl hpaths
  obtain ⟨hclient, hschema⟩ := names_of_render h
  rw [hfiles.1] at hclient
  rw [hfiles.2] at hschema
  obtain ⟨_, _, hwritten⟩ := files_of_render h
  obtain ⟨hlist, hreadSchema, hdistinct, _⟩ := hwritten _ _ _ _ _ hwrite
  rw [hclient, hschema] at hlist hdistinct
  rw [hschema] at hreadSchema
  exact ⟨c, p, _, paths, hparse, h, hwrite, hlist, (hdistinct (by decide)).2, hreadSchema⟩

/-- A schema module that is given the name of the client type overwrites the client module. -/
theorem files_of_cineClient :
    ∃ c p fs paths, Collection.parse "type Query { x: Int }" = .ok c ∧
      render c ⟨"Cine", some "CineClient", none⟩ = .ok p ∧
      writePackage .empty [] p "out" = (fs, .ok paths) ∧
      paths = ["out/cine_client.rs", "out/cine_client.rs"] ∧
      fs.read [] "out/cine_client.rs" = .ok p.schema.text ∧
      fs.read [] "out/cine_client.rs" ≠ .ok p.client.text := by
  have hok : (Collection.parse "type Query { x: Int }").toOption.any (fun c =>
      (render c ⟨"Cine", some "CineClient", none⟩).toOption.any fun p =>
        (writePackage .empty [] p "out").2.toOption.any fun _ => true) = true := by
    decide +kernel
  have hfiles : Options.clientFile ⟨"Cine", some "CineClient", none⟩ = "cine_client.rs" ∧
      Options.schemaFile ⟨"Cine", some "CineClient", none⟩ = "cine_client.rs" := by
    decide
  obtain ⟨c, hparse, hok⟩ := exists_eq_ok_of_any hok
  obtain ⟨p, h, hok⟩ := exists_eq_ok_of_any hok
  obtain ⟨paths, hpaths, _⟩ := exists_eq_ok_of_any hok
  have hwrite : writePackage .empty [] p "out" =
    ((writePackage .empty [] p "out").1, .ok paths) := Prod.ext rfl hpaths
  obtain ⟨hclient, hschema⟩ := names_of_render h
  have hread := (read_of_writePackage (hclient ▸ isFileName_clientFile _)
    (hschema ▸ isFileName_schemaFile _) hwrite).1
  have hlist := paths_of_writePackage hwrite
  rw [hfiles.1] at hclient
  rw [hfiles.2] at hschema
  rw [packagePaths, hclient, hschema] at hlist
  rw [hschema] at hread
  refine ⟨c, p, _, paths, hparse, h, hwrite, hlist, hread, fun hclientRead => ?_⟩
  exact client_text_ne_schema_text h (Except.ok.inj (hclientRead.symm.trans hread))

end SchemaSdk.Project
