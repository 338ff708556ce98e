import Clusterwright.SortedMap
import Clusterwright.Text.Utf8
import Clusterwright.Tool.Effect

/-!
# A tree of files

The files of a rehearsal are kept in a map from whole paths to what is there. Paths are looked up
one step at a time, from the root or from the working directory, so that each step that is no
directory and each that is missing is told apart.
-/

namespace Clusterwright.Rehearsal

open Tool

/-- What is at a path. -/
inductive Entry where
  | file (content : Bytes)
  | directory
  deriving DecidableEq, Repr

/-- The steps of a path below the root. -/
abbrev Steps := List String

/-- The files of a rehearsal; the root and the working directory are always there. -/
structure Files where
  entries : SortedMap Entry := .empty
  base : Steps := ["rehearsal"]
  deriving DecidableEq, Repr

namespace Files

/-- The key of a place. -/
def key (at_ : Steps) : String := "/".intercalate at_

/-- What is at a place. -/
def entry? (files : Files) (at_ : Steps) : Option Entry :=
  if at_ = [] ∨ at_ = files.base then some .directory else files.entries.find? (key at_)

/-- Puts something at a place. -/
def place (files : Files) (at_ : Steps) (e : Entry) : Files :=
  { files with entries := files.entries.insert (key at_) e }

/-- The greatest size of a name. -/
def maxName : Nat := 255

/-- Walks on from a directory. -/
def walk (files : Files) (here : Steps) : Steps → Except FileFault Steps
  | [] => .ok here
  | "" :: rest | "." :: rest => walk files here rest
  | ".." :: rest => walk files here.dropLast rest
  | name :: rest =>
    if maxName < name.utf8ByteSize then .error .nameTooLong
    else
      match files.entry? (here ++ [name]) with
      | none => .error .missing
      | some .directory => walk files (here ++ [name]) rest
      | some (.file _) => if rest.isEmpty then .ok (here ++ [name]) else .error .notDirectory

/-- Where a path starts. -/
def start (files : Files) (path : FilePath) : Steps :=
  if path.toList.head? = some '/' then [] else files.base

/-- The steps of a path as it is written. -/
def stepsOf (path : FilePath) : Steps := (path.toList.splitOn '/').map String.ofList

/-- The place that a path leads to. -/
def resolve (files : Files) (path : FilePath) : Except FileFault Steps :=
  if path.isEmpty then .error .missing
  else if path.toList.contains '\x00' then .error .zeroInName
  else walk files (files.start path) (stepsOf path)

/-- The content of a file. -/
def readBytes (files : Files) (path : FilePath) : Except FileFault Bytes := do
  match files.entry? (← files.resolve path) with
  | some (.file content) => return content
  | some .directory => throw .isDirectory
  | none => throw .missing

/-- The text in a file. -/
def read (files : Files) (path : FilePath) : Except FileFault String := do
  match Utf8.decode? (← files.readBytes path) with
  | some text => return text
  | none => throw .notText

/-- Writes a file; its directory has to be there. -/
def write (files : Files) (path : FilePath) (content : Bytes) : Except FileFault Files := do
  if path.isEmpty then throw .missing
  if path.toList.contains '\x00' then throw .zeroInName
  let steps := stepsOf path
  let name := steps.getLast?.getD ""
  let parent ← walk files (files.start path) (steps.dropLast ++ [""])
  if name = "" ∨ name = "." ∨ name = ".." then throw .isDirectory
  if maxName < name.utf8ByteSize then throw .nameTooLong
  if files.entry? (parent ++ [name]) = some .directory then throw .isDirectory
  return files.place (parent ++ [name]) (.file content)

/-- Makes one directory, whose parent has to be there. -/
def makeDirectory (files : Files) (from_ : Steps) (steps : Steps) : Except FileFault Files := do
  let name := steps.getLast?.getD ""
  let parent ← walk files from_ (steps.dropLast ++ [""])
  if name = "" ∨ name = ".." then throw .exists
  if maxName < name.utf8ByteSize then throw .nameTooLong
  if (files.entry? (parent ++ [name])).isSome then throw .exists
  return files.place (parent ++ [name]) .directory

/-- Whether some steps lead to a directory. -/
def isDirectory (files : Files) (from_ : Steps) (steps : Steps) : Bool :=
  match walk files from_ (steps ++ [""]) with
  | .ok at_ => files.entry? at_ = some .directory
  | .error _ => false

/-- Makes a directory, unless it is there, and first all those above it; `count` bounds their
number. What could be made stays, also if the rest fails. -/
def makeAll (from_ : Steps) : Nat → Steps → Files → Except FileFault Unit × Files
  | 0, _, files => (.ok (), files)
  | count + 1, steps, files =>
    match files.makeDirectory from_ steps with
    | .ok files => (.ok (), files)
    | .error .missing =>
      let (made, files) := makeAll from_ count steps.dropLast files
      match made, files.makeDirectory from_ steps with
      | .error fault, _ => (.error fault, files)
      | .ok (), .ok files => (.ok (), files)
      | .ok (), .error fault => (excused from_ steps files fault, files)
    | .error fault => (excused from_ steps files fault, files)
where
  /-- A fault that does not matter if the directory is there. -/
  excused (from_ : Steps) (steps : Steps) (files : Files) (fault : FileFault) :
      Except FileFault Unit :=
    if files.isDirectory from_ steps then .ok () else .error fault

/-- Makes a directory with all those above it. -/
def makeDirectories (files : Files) (path : FilePath) : Except FileFault Unit × Files :=
  if path.toList.contains '\x00' then (.error .zeroInName, files)
  else
    let steps := (stepsOf path).filter fun s => s ≠ "" ∧ s ≠ "."
    makeAll (files.start path) steps.length steps files

/-- Files in the working directory, with the directories that they need. -/
def stock (files : Files) (path : FilePath) (e : Entry) : Files :=
  let steps := (stepsOf path).filter fun s => s ≠ "" ∧ s ≠ "."
  let start := files.start path
  let above := (List.range steps.length).foldl
    (fun files n =>
      if n = 0 ∨ (files.entry? (start ++ steps.take n)).isSome then files
      else files.place (start ++ steps.take n) .directory) files
  above.place (start ++ steps) e

end Files

end Clusterwright.Rehearsal
