import BrickLint.Double

/-!
# File stores

A file store is the part of a file system that the program can see: files and directories, each with
the time of its last modification in whole nanoseconds, and the working directory in which relative
paths start. A directory exists when it is listed, when it holds something that is listed, and when
it is the working directory or holds it.
-/

namespace BrickLint

/-- What stands at a path. -/
inductive FileNode where
  /-- A regular file and its bytes. -/
  | file (bytes : List UInt8)
  /-- A directory. -/
  | directory

/-- An entry of a file store. -/
structure FileEntry where
  /-- The names that lead from the root to the entry. -/
  path : List String
  /-- What stands there. -/
  node : FileNode
  /-- When it was last modified, in nanoseconds. -/
  modified : Int

/-- Files and directories, and a working directory. -/
structure FileStore where
  /-- The listed entries. -/
  entries : List FileEntry := []
  /-- The names that lead from the root to the working directory. -/
  directory : List String := []

namespace FileStore

/-- The modification time of files and directories that nobody changed, in seconds. -/
def initialTime : Rat :=
  1000

/-- A time in seconds as it is kept: the nanoseconds of the last second are computed in double
precision, and a part of one is dropped. -/
def keptTime (time : Rat) : Int :=
  let seconds := time.num.tdiv time.den
  let nanoseconds := (Double.nearest ((time - seconds) * 1000000000)).value?
  seconds * 1000000000 + (nanoseconds.getD 0).floor

/-- The number in double precision that is nearest to a nanosecond in seconds. -/
def nanosecond : Rat :=
  (Double.nearest (mkRat 1 1000000000)).value?.getD 0

/-- A time as it is told, in seconds. The whole seconds and the nanoseconds of the last one are put
together in double precision. -/
def toldTime (time : Int) : Double :=
  (Double.nearest (time / 1000000000 : Int)).add
    (.nearest (nanosecond * (time % 1000000000 : Int)))

/-- The entry listed under a path. -/
def entry? (files : FileStore) (path : List String) : Option FileEntry :=
  files.entries.find? fun entry => entry.path == path

/-- Whether a directory stands at a path. -/
def isDirectory (files : FileStore) (path : List String) : Bool :=
  match files.entry? path with
  | some ⟨_, .directory, _⟩ => true
  | some ⟨_, .file _, _⟩ => false
  | none =>
    path.isPrefixOf files.directory || files.entries.any fun entry => path.isPrefixOf entry.path

/-- Follows the names of a path from a place. A name can only be followed from a directory, and the
root is the directory above itself. -/
def follow? (files : FileStore) : List String → List String → Option (List String)
  | place, [] => some place
  | place, name :: rest =>
    if !files.isDirectory place then none
    else if name = "" ∨ name = "." then files.follow? place rest
    else if name = ".." then files.follow? place.dropLast rest
    else files.follow? (place ++ [name]) rest

/-- Where a path starts: at the root, or in the working directory. -/
def origin (files : FileStore) (path : List Char) : List String :=
  if path.head? = some '/' then [] else files.directory

/-- The place that a path leads to. The empty path leads nowhere. -/
def resolve? (files : FileStore) (path : List Char) : Option (List String) :=
  if path.isEmpty then none
  else files.follow? (files.origin path) ((path.splitOn '/').map String.ofList)

/-- The bytes of the regular file at a path. -/
def read? (files : FileStore) (path : List Char) : Option (List UInt8) :=
  match (files.resolve? path).bind files.entry? with
  | some ⟨_, .file bytes, _⟩ => some bytes
  | _ => none

/-- The modification time of what stands at a path (`_mtime`). -/
def modified? (files : FileStore) (path : List Char) : Option Double :=
  (files.resolve? path).bind fun names =>
    match files.entry? names with
    | some entry => some (toldTime entry.modified)
    | none => if files.isDirectory names then some (toldTime (keptTime initialTime)) else none

/-- Whether something stands at a path. -/
def contains (files : FileStore) (path : List Char) : Bool :=
  (files.modified? path).isSome

/-- Whether a path can be handed to a file system at all: it holds no null character. -/
def isValidPath (path : List Char) : Bool :=
  !path.contains '\x00'

/-- The names that a path spells, which need not lead anywhere yet. -/
def namesOf (files : FileStore) (path : List Char) : List String :=
  ((path.splitOn '/').map String.ofList).foldl
    (fun names name =>
      if name = "" ∨ name = "." then names
      else if name = ".." then names.dropLast
      else names ++ [name])
    (files.origin path)

/-- Removes the entry at a path. -/
def delete (files : FileStore) (path : List Char) : FileStore :=
  { files with entries := files.entries.filter fun entry => entry.path != files.namesOf path }

/-- Writes an entry, in place of what was there. -/
def write (files : FileStore) (path : List Char) (node : FileNode) (modified : Rat) : FileStore :=
  { files with
    entries := (files.delete path).entries ++ [⟨files.namesOf path, node, keptTime modified⟩] }

/-- Changes the modification time of what stands at a path. A directory that is not listed is listed
from then on. -/
def touch (files : FileStore) (path : List Char) (modified : Rat) : FileStore :=
  let names := files.namesOf path
  let time := keptTime modified
  if (files.entry? names).isSome then
    { files with
      entries := files.entries.map fun entry =>
        if entry.path == names then { entry with modified := time } else entry }
  else if files.isDirectory names then
    { files with entries := files.entries ++ [⟨names, .directory, time⟩] }
  else files

end FileStore

/-- A change that somebody else makes to the files. -/
inductive FileChange where
  /-- Something is written to a path. -/
  | write (path : List Char) (node : FileNode) (modified : Rat)
  /-- The modification time of a path is set. -/
  | touch (path : List Char) (modified : Rat)
  /-- A path is removed. -/
  | delete (path : List Char)

/-- Makes a change. -/
def FileStore.change (files : FileStore) : FileChange → FileStore
  | .write path node modified => files.write path node modified
  | .touch path modified => files.touch path modified
  | .delete path => files.delete path

end BrickLint
