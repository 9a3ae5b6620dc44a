import SchemaSdk.Files.Path

/-!
# File systems

A tree of files and directories, kept as the nodes that exist, each at its location. A location is
the list of names from the root, which always is a directory. A path leads through the tree step by
step, so every directory it names has to exist. Files and directories carry the permissions that
were set on them.

Calls that change something may fail for no reason that the tree shows: a disk is full, or the
permissions are not the user's to change. Which of them do is up to the system, whose answers are
part of a file system. A file is opened first, which leaves it empty, and then filled, which may
break off halfway. There are no links, and the content of a file is a text, so that what a broken
write leaves ends between two characters. Looking at what there is fails only for what there is.
-/
namespace SchemaSdk

/-- Why an operation on files fails. -/
inductive OsError where
  | notFound
  | alreadyExists
  | notDirectory
  | isDirectory
  | nameTooLong
  | zeroInName
  | system (code : Nat) (description : String)
  deriving DecidableEq

/-- What the system says about an error. -/
def OsError.message : OsError → String
  | notFound => "No such file or directory (os error 2)"
  | alreadyExists => "File exists (os error 17)"
  | notDirectory => "Not a directory (os error 20)"
  | isDirectory => "Is a directory (os error 21)"
  | nameTooLong => "File name too long (os error 36)"
  | zeroInName => "file name contained an unexpected NUL byte"
  | system code description => description ++ " (os error " ++ toString code ++ ")"

/-- The names that lead from the root to a place. -/
abbrev Location := List String

/-- What stands at a place. -/
inductive Node where
  | file (text : String) (mode : Nat)
  | directory (mode : Nat)
  deriving DecidableEq

/-- Whether a node is a directory. -/
def Node.isDirectory : Node → Bool
  | directory _ => true
  | file _ _ => false

/-- A node with other permissions. -/
def Node.withMode (mode : Nat) : Node → Node
  | file text _ => file text mode
  | directory _ => directory mode

/-- How a call on the system fails, and how many characters it has written by then if it is one that
writes. -/
structure Failure where
  error : OsError
  written : Nat
  deriving DecidableEq

/-- The places below the root where something stands, and which of the next calls that change
something fail. Those after them do what they should. -/
structure FileSystem where
  nodes : List (Location × Node)
  failures : List (Option Failure)
  deriving DecidableEq

namespace FileSystem

/-- A file system with some nodes, where no call fails that need not. -/
def ofNodes (nodes : List (Location × Node)) : FileSystem := ⟨nodes, []⟩

/-- A file system with nothing but its root. -/
def empty : FileSystem := ofNodes []

/-- What stands at a place. -/
def node? (fs : FileSystem) (l : Location) : Option Node :=
  if l.isEmpty then some (.directory 0o755) else fs.nodes.lookup l

/-- Puts a node at a place. -/
def put (fs : FileSystem) (l : Location) (n : Node) : FileSystem :=
  if fs.nodes.any (·.1 == l) then
    { fs with nodes := fs.nodes.map fun e => if e.1 == l then (l, n) else e }
  else { fs with nodes := fs.nodes ++ [(l, n)] }

/-- The longest name that a place can have, in bytes. -/
def maxNameBytes : Nat := 255

/-- The longest path, in bytes. -/
def maxPathBytes : Nat := 4095

/-- The place that one step leads to. -/
def step (place : Location) (s : String) : Location :=
  if s == "." then place else if s == ".." then place.dropLast else place ++ [s]

/-- The place that steps lead to from a place. All but the last one have to lead to directories. -/
def walk (fs : FileSystem) (place : Location) : List String → Except OsError Location
  | [] => .ok place
  | s :: rest =>
    if maxNameBytes < s.utf8ByteSize then .error .nameTooLong
    else
      let next := step place s
      if rest.isEmpty then .ok next
      else match fs.node? next with
        | none => .error .notFound
        | some (.file _ _) => .error .notDirectory
        | some (.directory _) => walk fs next rest

/-- The place that a path leads to, relative paths from the working directory. Nothing has to stand
there, but all directories on the way have to exist. -/
def resolve (fs : FileSystem) (cwd : Location) (p : String) : Except OsError Location :=
  if p.toList.contains '\x00' then .error .zeroInName
  else if p.isEmpty then .error .notFound
  else if maxPathBytes < p.utf8ByteSize then .error .nameTooLong
  else fs.walk (if Path.isAbsolute p then [] else cwd) (Path.steps p)

/-- The places that steps lead through, whatever stands there. -/
def passed (place : Location) : List String → List Location
  | [] => []
  | s :: rest => step place s :: passed (step place s) rest

/-- The places that a path leads through, relative paths from the working directory. -/
def placesOn (cwd : Location) (p : String) : List Location :=
  passed (if Path.isAbsolute p then [] else cwd) (Path.steps p)

/-- What stands in a file system, but not in the one before. -/
def changesFrom (fs before : FileSystem) : List (Location × Node) :=
  fs.nodes.filter fun (l, n) => before.node? l != some n

/-- What stands where a path leads to. -/
def stat (fs : FileSystem) (cwd : Location) (p : String) : Except OsError Node := do
  let l ← fs.resolve cwd p
  match fs.node? l with
  | none => .error .notFound
  | some (.file text mode) =>
    if Path.namesDirectory p then .error .notDirectory else .ok (.file text mode)
  | some n => .ok n

/-- Whether something stands where a path leads to. -/
def pathExists (fs : FileSystem) (cwd : Location) (p : String) : Bool :=
  (fs.stat cwd p).isOk

/-- Whether a path leads to a file. -/
def isFile (fs : FileSystem) (cwd : Location) (p : String) : Bool :=
  match fs.stat cwd p with
  | .ok n => !n.isDirectory
  | .error _ => false

/-- Whether a path leads to a directory. -/
def isDirectory (fs : FileSystem) (cwd : Location) (p : String) : Bool :=
  match fs.stat cwd p with
  | .ok n => n.isDirectory
  | .error _ => false

/-- The text of a file. -/
def read (fs : FileSystem) (cwd : Location) (p : String) : Except OsError String := do
  match ← fs.stat cwd p with
  | .file text _ => .ok text
  | .directory _ => .error .isDirectory

/-! ### Calls that change something -/

/-- How the next call fails, if it does. -/
def failure? (fs : FileSystem) : Option Failure := fs.failures.head?.join

/-- A file system that has been called once more. -/
def called (fs : FileSystem) : FileSystem := { fs with failures := fs.failures.tail }

/-- Has a node put at a place. If that fails, nothing changes. -/
def attempt (fs : FileSystem) (l : Location) (n : Node) : FileSystem × Except OsError Unit :=
  match fs.failure? with
  | some f => (fs.called, .error f.error)
  | none => (fs.called.put l n, .ok ())

/-- The beginning of a text, as a write leaves it that breaks off. -/
def begun (text : String) (written : Nat) : String := String.ofList (text.toList.take written)

/-- Has a text written to an open file. If that fails, the file has the beginning of the text. -/
def fill (fs : FileSystem) (l : Location) (text : String) (mode : Nat) :
    FileSystem × Except OsError Unit :=
  match fs.failure? with
  | some f => (fs.called.put l (.file (begun text f.written) mode), .error f.error)
  | none => (fs.called.put l (.file text mode), .ok ())

/-- Where a file is to be written, and its permissions, which it keeps if it exists. -/
def target (fs : FileSystem) (cwd : Location) (p : String) : Except OsError (Location × Nat) := do
  let l ← fs.resolve cwd p
  match fs.node? l with
  | some (.directory _) => .error .isDirectory
  | some (.file _ mode) =>
    if Path.namesDirectory p then .error .notDirectory else .ok (l, mode)
  | none => if Path.namesDirectory p then .error .isDirectory else .ok (l, 0o644)

/-- Writes a file: it is opened, and with that it is there and empty, and then it is filled. -/
def write (fs : FileSystem) (cwd : Location) (p : String) (text : String) :
    FileSystem × Except OsError Unit :=
  match fs.target cwd p with
  | .error e => (fs, .error e)
  | .ok (l, mode) =>
    match fs.attempt l (.file "" mode) with
    | (fs, .error e) => (fs, .error e)
    | (fs, .ok ()) => fs.fill l text mode

/-- Makes a directory. -/
def makeDirectory (fs : FileSystem) (cwd : Location) (p : String) :
    FileSystem × Except OsError Unit :=
  match fs.resolve cwd p with
  | .error e => (fs, .error e)
  | .ok l =>
    match fs.node? l with
    | some _ => (fs, .error .alreadyExists)
    | none => fs.attempt l (.directory 0o755)

/-- Sets the permissions of what stands where a path leads to. -/
def restrict (fs : FileSystem) (cwd : Location) (p : String) (mode : Nat) :
    FileSystem × Except OsError Unit :=
  match fs.resolve cwd p, fs.stat cwd p with
  | .ok l, .ok n => fs.attempt l (n.withMode mode)
  | .error e, _ => (fs, .error e)
  | .ok _, .error e => (fs, .error e)

/-- Makes a directory and those above it that are missing. The fuel bounds their number. -/
def makeDirectoriesFrom (cwd : Location) :
    Nat → FileSystem → String → FileSystem × Except OsError Unit
  | fuel, fs, p =>
    if p.isEmpty then (fs, .ok ())
    else match fs.makeDirectory cwd p with
      | (fs, .ok ()) => (fs, .ok ())
      | (fs, .error .notFound) =>
        match fuel, Path.parent? p with
        | fuel + 1, some above =>
          match makeDirectoriesFrom cwd fuel fs above with
          | (fs, .error e) => (fs, .error e)
          | (fs, .ok ()) =>
            match fs.makeDirectory cwd p with
            | (fs, .ok ()) => (fs, .ok ())
            | (fs, .error e) => if fs.isDirectory cwd p then (fs, .ok ()) else (fs, .error e)
        | _, _ => (fs, .error .notFound)
      | (fs, .error e) => if fs.isDirectory cwd p then (fs, .ok ()) else (fs, .error e)

/-- Makes a directory and those above it that are missing. Those that could be made stay. -/
def makeDirectories (fs : FileSystem) (cwd : Location) (p : String) :
    FileSystem × Except OsError Unit :=
  makeDirectoriesFrom cwd p.length fs p

end FileSystem
end SchemaSdk
