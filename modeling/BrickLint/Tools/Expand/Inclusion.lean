import BrickLint.FileStore
import BrickLint.Text.Utf8
import BrickLint.Tools.Expand.Output

/-!
# Inclusions

An inclusion names a file in quotes or between angle brackets. A quoted file is looked for in the
directories of the files that are being read, the innermost first, and in the working directory;
other files only there.
-/

namespace BrickLint.Expand

/-- How an inclusion names its file. -/
inductive FileName where
  /-- Not at all. -/
  | missing
  /-- By an opening angle bracket without its partner. -/
  | unclosed
  /-- In quotes. -/
  | quoted (name : List Char)
  /-- Between angle brackets. -/
  | angled (name : List Char)
  /-- By something else, which names no file. -/
  | other

/-- How the arguments of an inclusion name its file. -/
def FileName.ofArguments : List Lexeme → FileName
  | [] => .missing
  | first :: rest =>
    if first.hasText "<" then
      if rest.any (·.hasText ">") then
        .angled (lexemesText (rest.takeWhile fun l => !l.hasText ">"))
      else .unclosed
    else if first.kind = .string then .quoted (first.text.drop 1).dropLast
    else .other

/-- The place that a name spells in a directory. -/
def placeIn (files : FileStore) (directory : List String) (name : List Char) : List String :=
  { files with directory := directory }.namesOf name

/-- The bytes of the regular file at a place. -/
def bytesAt? (files : FileStore) (place : List String) : Option (List UInt8) :=
  match files.entry? place with
  | some ⟨_, .file bytes, _⟩ => some bytes
  | _ => none

/-- The text of a file, without the mark of its encoding. Not all bytes are a text. -/
def textOf? (bytes : List UInt8) : Option (List Char) :=
  let text := Text.decodeUtf8 bytes
  if Text.encodeUtf8 text ≠ bytes then none
  else if text.head? = some '\ufeff' then some text.tail
  else some text

/-- The name under which lines of a file are announced: the path from the working directory, or from
the root if the file is not below it. -/
def announcedName (files : FileStore) (place : List String) : String :=
  if files.directory.isPrefixOf place then
    "/".intercalate (place.drop files.directory.length)
  else "/" ++ "/".intercalate place

end BrickLint.Expand
