import BrickLint.FileStore
import BrickLint.Text.Lines
import BrickLint.Text.Utf8

/-!
# Source files

Programs are read from files, and lines of them are shown under a diagnostic. Files that look binary
are not read, and very long files are cut.
-/

namespace BrickLint

open Text

/-- How many lines of a file are read. -/
def maxSourceLines : Nat :=
  100000

/-- How many bytes of a file are searched for a zero byte. -/
def binaryProbe : Nat :=
  8192

/-- The path of a file that is named relative to a root (`SourceReader._resolve`). Backslashes
separate names too, and an absolute path stays as it is. -/
def joinPath (root path : List Char) : List Char :=
  let path := path.map fun c => if c = '\\' then '/' else c
  if path.head? = some '/' ∨ root.isEmpty ∨ root.getLast? = some '/' then
    if path.head? = some '/' then path else root ++ path
  else root ++ '/' :: path

/-- The text of the source in a file, unless it cannot be read or looks binary
(`SourceReader.read_text`). -/
def readSource? (files : FileStore) (root path : List Char) : Option (List Char) := do
  let bytes ← files.read? (joinPath root path)
  if (bytes.take binaryProbe).contains 0 then none
  else some (takeLines maxSourceLines (decodeUtf8 bytes))

/-- A number, filled up with spaces on the left. -/
def padLeft (width : Nat) (number : Nat) : List Char :=
  let digits := (toString number).toList
  List.replicate (width - digits.length) ' ' ++ digits

/-- A numbered line of an excerpt; the line in question is marked. -/
def excerptLine (target : Int) (width number : Nat) (line : List Char) : List Char :=
  (if (number : Int) = target then '>' else ' ') :: ' ' :: padLeft width number ++ " | ".toList ++
    line

/-- The lines around line number `target`, counted from one, with `context` lines on either side
(`get_code_context`). -/
def excerpt (text : List Char) (target context : Int) : List Char :=
  let lines := visualLines text
  let start := (target - 1 - context).toNat
  let stop := min (lines.length : Int) (target + context)
  let width := (toString stop).length
  let shown := (lines.zipIdx 1).drop start |>.take (stop - start).toNat
  ['\n'].intercalate (shown.map fun (line, number) => excerptLine target width number line)

end BrickLint
