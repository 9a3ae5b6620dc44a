import SchemaSdk.Files.System
import SchemaSdk.Sdk.Package

/-!
# Writing generated packages

A package is written into one directory, which is made if it is missing.
-/
namespace SchemaSdk.Project

open SchemaSdk.Sdk (Package)

/-- What is said about an error of the system when files are written. -/
def outputMessage (e : OsError) : String := "I/O error: " ++ e.message

/-- The paths of the files of a package in a directory. -/
def packagePaths (p : Package) (directory : String) : List String :=
  [Path.join directory p.client.name, Path.join directory p.schema.name]

/-- Writes the files of a package into a directory. What was done before an error stays. -/
def writePackage (fs : FileSystem) (cwd : Location) (p : Package) (directory : String) :
    FileSystem × Except OsError (List String) :=
  match fs.makeDirectories cwd directory with
  | (fs, .error e) => (fs, .error e)
  | (fs, .ok ()) =>
    match fs.write cwd (Path.join directory p.client.name) p.client.text with
    | (fs, .error e) => (fs, .error e)
    | (fs, .ok ()) =>
      match fs.write cwd (Path.join directory p.schema.name) p.schema.text with
      | (fs, .error e) => (fs, .error e)
      | (fs, .ok ()) => (fs, .ok (packagePaths p directory))

end SchemaSdk.Project
