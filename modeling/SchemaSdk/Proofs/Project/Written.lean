import SchemaSdk.Project.Output
import SchemaSdk.Proofs.Files.Places
import SchemaSdk.Proofs.Text.Words

/-!
# What writing a package changes

The files of a package have names in snake case with an extension, so that each is a file right in
the directory of the package, whatever the modules are called. However far the writing of a package
gets, it changes nothing but that directory, those above it, and these two files.
-/
namespace SchemaSdk.Sdk

open SchemaSdk.Path (IsFileName)

/-! ## Names of the files -/

theorem isFileName_withExtension {stem : String} (h : '/' ∉ stem.toList) :
    IsFileName (stem ++ ".rs") := by
  have hlast : (stem ++ ".rs").toList.getLast? = some 's' := by
    simp [List.getLast?_append]
  refine ⟨by simp, ?_, ?_, ?_⟩
  · simp [h]
  · intro hdot
    simp [hdot] at hlast
  · intro hdots
    simp [hdots] at hlast

theorem isFileName_clientFile (o : Options) : IsFileName o.clientFile :=
  isFileName_withExtension (Text.slash_notMem_snakeCase _)

theorem isFileName_schemaFile (o : Options) : IsFileName o.schemaFile := by
  refine isFileName_withExtension ?_
  unfold Identifier.schemaModule
  split
  · split
    · simp
    · exact Text.slash_notMem_snakeCase _
  · simp

/-- The files of a package are named by its options. -/
theorem names_of_render {c : Schema.Collection} {o : Options} {p : Package}
    (h : render c o = .ok p) : p.client.name = o.clientFile ∧ p.schema.name = o.schemaFile := by
  unfold render at h
  split at h
  · cases h
  split at h
  · cases h
  have hp := Except.ok.inj h
  exact ⟨congrArg (·.client.name) hp.symm, congrArg (·.schema.name) hp.symm⟩

theorem names_of_generate {sdl : String} {o : Options} {p : Package} (h : generate sdl o = .ok p) :
    p.client.name = o.clientFile ∧ p.schema.name = o.schemaFile := by
  unfold generate at h
  split at h
  · cases h
  exact names_of_render h

end SchemaSdk.Sdk

namespace SchemaSdk.Project

open SchemaSdk.Path (IsFileName)
open SchemaSdk.Sdk (Package)

variable {fs fs' : FileSystem} {cwd : Location} {p : Package} {directory : String}
variable {paths : List String}

/-! ## Writing -/

section WritePackage

variable (hclient : IsFileName p.client.name) (hschema : IsFileName p.schema.name)

include hclient hschema

/-- Whether a package is written or not, only its directory and its files change. -/
theorem writePackage_writtenInto :
    FileSystem.WrittenInto cwd directory [p.client.name, p.schema.name] fs
      (writePackage fs cwd p directory).1 := by
  have hmade : FileSystem.WrittenInto cwd directory [p.client.name, p.schema.name] fs
      (fs.makeDirectories cwd directory).1 :=
    (FileSystem.makeDirectories_madeAt fs cwd directory).writtenInto
  rw [writePackage]
  split
  · next made e hmake =>
    rwa [hmake] at hmade
  next made hmake =>
  rw [hmake] at hmade
  have hfirst := hmade.write hclient List.mem_cons_self p.client.text
  split
  · next first e hwrite =>
    rwa [hwrite] at hfirst
  next first hwrite =>
  rw [hwrite] at hfirst
  have hsecond := hfirst.write hschema (List.mem_cons_of_mem _ List.mem_cons_self) p.schema.text
  split
  · next second e hwrite' =>
    rwa [hwrite'] at hsecond
  next second hwrite' =>
  rwa [hwrite'] at hsecond

/-- A written package is read back from its files. The schema module is written last, so it is what
is found where the modules share a name. -/
theorem read_of_writePackage (h : writePackage fs cwd p directory = (fs', .ok paths)) :
    fs'.read cwd (Path.join directory p.schema.name) = .ok p.schema.text ∧
      (p.client.name ≠ p.schema.name →
        fs'.read cwd (Path.join directory p.client.name) = .ok p.client.text) := by
  rw [writePackage] at h
  split at h
  · cases h
  split at h
  · cases h
  next first hfirst =>
  split at h
  · cases h
  next second hsecond =>
  cases h
  refine ⟨FileSystem.read_of_write hsecond, fun hnames => ?_⟩
  have hbetween : FileSystem.WrittenInto cwd directory [p.schema.name] first
      (first.write cwd (Path.join directory p.schema.name) p.schema.text).1 :=
    (FileSystem.MadeAt.refl _ first).writtenInto.write hschema List.mem_cons_self p.schema.text
  rw [hsecond] at hbetween
  refine hbetween.read (fun name hname => ?_) (FileSystem.read_of_write hfirst)
  rw [FileSystem.placeOf_join hclient, List.mem_singleton.mp hname]
  intro hplaces
  exact hnames (List.singleton_inj.mp (List.append_cancel_left hplaces))

end WritePackage

end SchemaSdk.Project
