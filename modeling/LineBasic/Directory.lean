import LineBasic.Directory.Place
import LineBasic.FileError
import LineBasic.Table

/-!
# The files of a directory

A session reads and writes files by name. The files of a directory are a value, on which reading and
writing are functions. A path may also lead out of the directory: those above it are there, and so
are the few places that every system has.

## Main definitions

* `Directory`: files and directories by path.
* `Directory.ofList`: a directory with given entries.
* `Directory.walk`: the place that the steps of a path lead to.
* `Directory.readText`, `Directory.write`: reading and writing a file.
-/

namespace LineBasic

/-- What stands at a place. -/
inductive DirectoryEntry where
  | file (content : ByteArray)
  | directory
  /-- The null device: it is empty, and keeps nothing. -/
  | sink

/-- Files and directories by path. -/
structure Directory where
  entries : Table String DirectoryEntry

/-- The longest name in a directory, in bytes. -/
def maxNameLength : Nat := 255

/-- The longest path, in bytes. -/
def maxPathLength : Nat := 4095

/-- The names of the directories that every system has at its root. -/
def rootDirectories : List String :=
  ["bin", "boot", "dev", "etc", "home", "lib", "media", "mnt", "opt", "proc", "root", "run", "sbin",
    "srv", "sys", "tmp", "usr", "var"]

/-- What every system has at a place. -/
def Place.entry? (p : Place) : Option DirectoryEntry :=
  if p.names = [] then some .directory
  else if p = ⟨.root, ["dev", "null"]⟩ then some .sink
  else if p.base = .root ∧ p.names.tail = [] ∧ p.names.all rootDirectories.contains then
    some .directory
  else none

namespace Directory

/-- Puts an entry at the end of the names on the way down from a place, and directories between. -/
def add (d : Directory) (e : DirectoryEntry) (p : Place) : List String → Directory
  | [] => d
  | [name] => ⟨d.entries.insert (p.child name).path e⟩
  | name :: rest =>
      let q := p.child name
      add ⟨d.entries.insert q.path .directory⟩ e q rest

/-- The directory with entries at the paths of a list. -/
def ofList (entries : List (String × DirectoryEntry)) : Directory :=
  entries.foldl (fun d (path, e) => d.add e .here (path.splitOn "/")) ⟨∅⟩

/-- What stands at a place. -/
def entry? (d : Directory) (p : Place) : Option DirectoryEntry :=
  p.entry?.orElse fun _ => d.entries.find? p.path

/-- The place behind the steps of a path from a place. Each step leaves a directory. -/
def walk (d : Directory) (p : Place) : List String → Except FileError Place
  | [] => .ok p
  | step :: rest =>
      match d.entry? p with
      | some .directory =>
          if step = "" ∨ step = "." then walk d p rest
          else if step = ".." then walk d p.parent rest
          else if maxNameLength < step.utf8ByteSize then .error .nameTooLong
          else walk d (p.child step) rest
      | some _ => .error .notDirectory
      | none => .error .notFound

/-- Refuses a path that no file has. -/
def checkPath (path : String) : Except FileError Unit :=
  if path.toList.contains (Char.ofNat 0) then .error .nullInName
  else if path = "" then .error .notFound
  else if maxPathLength < path.utf8ByteSize then .error .nameTooLong
  else .ok ()

/-- The content of a file. -/
def readBytes (d : Directory) (path : String) : Except FileError ByteArray := do
  checkPath path
  match d.entry? (← d.walk (Place.start path) (path.splitOn "/")) with
  | some (.file content) => .ok content
  | some .directory => .error .isDirectory
  | some .sink => .ok ByteArray.empty
  | none => .error .notFound

/-- The text of a file. -/
def readText (d : Directory) (path : String) : Except FileError String := do
  match String.fromUTF8? (← d.readBytes path) with
  | some text => .ok text
  | none => .error .invalidText

/-- A path without the slashes at its end, and whether there were any. -/
def splitSlashes (path : String) : String × Bool :=
  let name := (path.toList.reverse.dropWhile (· = '/')).reverse
  (String.ofList name, name ≠ path.toList)

/--
Gives a file a text, and makes the file where there is none. A path that ends in a slash names a
directory, whether there is one or not.
-/
def write (d : Directory) (path : String) (text : String) : Except FileError Directory := do
  checkPath path
  let (name, isSlashed) := splitSlashes path
  let place ← d.walk (Place.start path) (name.splitOn "/")
  match d.entry? place with
  | some .directory => .error .isDirectory
  | some .sink => if isSlashed then .error .isDirectory else .ok d
  | _ =>
      if isSlashed then .error .isDirectory
      else .ok ⟨d.entries.insert place.path (.file text.toUTF8)⟩

end Directory

end LineBasic
