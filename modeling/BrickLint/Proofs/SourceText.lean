import BrickLint.Proofs.Utf8
import BrickLint.SourceFile
import Mathlib.Data.List.TakeWhile

/-!
# The text of a source file

A file that does not look binary is read as the text that was written to it, through the end of its
last line that counts. The lines of a text keep their ends: a line feed, a carriage return, or both
together, which are never taken apart. The division of a text into such lines is a relation between
the text and its lines, and every text has exactly one list of lines.
-/

namespace BrickLint

namespace Text

/-- What ends a line. -/
inductive LineEnd where
  /-- A line feed. -/
  | lineFeed
  /-- A carriage return. -/
  | carriageReturn
  /-- A carriage return and a line feed. -/
  | both

/-- The characters of a line end. -/
def LineEnd.chars : LineEnd → List Char
  | .lineFeed => ['\n']
  | .carriageReturn => ['\r']
  | .both => ['\r', '\n']

/-- Whether a character belongs to no line end. -/
def isInsideLine (c : Char) : Bool :=
  c != '\n' && c != '\r'

/-- A text does not go on with the second half of the line end before it. -/
def LineEnd.IsWhole (lineEnd : LineEnd) (rest : List Char) : Prop :=
  match lineEnd with
  | .carriageReturn => rest.head? ≠ some '\n'
  | .lineFeed | .both => True

/-- The lines of a text, each with its end. Only the last line may lack an end. -/
inductive HasLines : List Char → List (List Char) → Prop
  /-- An empty text has no lines. -/
  | empty : HasLines [] []
  /-- The last line has no end. -/
  | last (body : List Char) (hne : body ≠ []) (hbody : ∀ c ∈ body, isInsideLine c = true) :
    HasLines body [body]
  /-- Other lines have one. -/
  | line (body : List Char) (lineEnd : LineEnd) (rest : List Char) (lines : List (List Char))
    (hbody : ∀ c ∈ body, isInsideLine c = true) (hwhole : lineEnd.IsWhole rest)
    (hrest : HasLines rest lines) :
    HasLines (body ++ lineEnd.chars ++ rest) ((body ++ lineEnd.chars) :: lines)

variable {text : List Char} {lines : List (List Char)}

/-- The lines of a text make up the text. -/
theorem HasLines.flatten_eq (h : HasLines text lines) : lines.flatten = text := by
  induction h with
  | empty => rfl
  | last body hne hbody => simp
  | line body lineEnd rest lines hbody hwhole hrest ih => rw [List.flatten_cons, ih]

/-- No line is empty. -/
theorem HasLines.ne_nil (h : HasLines text lines) : ∀ line ∈ lines, line ≠ [] := by
  induction h with
  | empty => simp
  | last body hne hbody => simpa using hne
  | line body lineEnd rest lines hbody hwhole hrest ih =>
    refine List.forall_mem_cons.mpr ⟨?_, ih⟩
    cases lineEnd <;> simp [LineEnd.chars]

/-- What follows a run of characters inside a line is nothing, or a line end and a text that does
not go on with it. -/
theorem eq_nil_or_lineEnd {rest : List Char} (h : ∀ c, rest.head? = some c → ¬isInsideLine c) :
    rest = [] ∨ ∃ (lineEnd : LineEnd) (more : List Char),
      rest = lineEnd.chars ++ more ∧ lineEnd.IsWhole more := by
  cases rest with
  | nil => exact Or.inl rfl
  | cons c more =>
    refine Or.inr ?_
    have hc : c = '\n' ∨ c = '\r' := by
      have hout := h c rfl
      simp only [isInsideLine, Bool.and_eq_true, bne_iff_ne, ne_eq, not_and_or, not_not] at hout
      exact hout
    rcases hc with rfl | rfl
    · exact ⟨.lineFeed, more, rfl, trivial⟩
    · by_cases hnext : more.head? = some '\n'
      · obtain ⟨tail, rfl⟩ := List.head?_eq_some_iff.mp hnext
        exact ⟨.both, tail, rfl, trivial⟩
      · exact ⟨.carriageReturn, more, rfl, hnext⟩

/-- Every text has lines. -/
theorem exists_hasLines (text : List Char) : ∃ lines, HasLines text lines := by
  induction hlength : text.length using Nat.strong_induction_on generalizing text with
  | h n ih =>
    have hbody : ∀ c ∈ text.takeWhile isInsideLine, isInsideLine c = true :=
      fun c hc => List.all_eq_true.mp List.all_takeWhile c hc
    have hstop : ∀ c, (text.dropWhile isInsideLine).head? = some c → ¬isInsideLine c := by
      intro c hc
      obtain ⟨more, hmore⟩ := List.head?_eq_some_iff.mp hc
      have hhead := List.head_dropWhile_not isInsideLine (l := text) (by simp [hmore])
      simpa [hmore] using hhead
    rcases eq_nil_or_lineEnd hstop with hend | ⟨lineEnd, more, hmore, hwhole⟩
    · rw [← List.takeWhile_append_dropWhile (p := isInsideLine) (l := text), hend, List.append_nil]
      by_cases hne : text.takeWhile isInsideLine = []
      · exact ⟨[], hne ▸ .empty⟩
      · exact ⟨_, .last _ hne hbody⟩
    · have htext : text = text.takeWhile isInsideLine ++ lineEnd.chars ++ more := by
        rw [List.append_assoc, ← hmore, List.takeWhile_append_dropWhile]
      have hshorter : more.length < n := by
        rw [← hlength, htext]
        cases lineEnd <;> simp [LineEnd.chars] <;> omega
      obtain ⟨lines, hlines⟩ := ih more.length hshorter more rfl
      rw [htext]
      exact ⟨_, .line _ lineEnd more lines hbody hwhole hlines⟩

/-- Characters inside a line are collected. -/
theorem collectLines_inside {body : List Char} (hbody : ∀ c ∈ body, isInsideLine c = true)
    (limit : Nat) (seen rest : List Char) :
    collectLines (limit + 1) seen (body ++ rest) =
      collectLines (limit + 1) (body.reverse ++ seen) rest := by
  induction body generalizing seen with
  | nil => rfl
  | cons c body ih =>
    obtain ⟨hc, hbody⟩ := List.forall_mem_cons.mp hbody
    have hinside : ∀ next, endsLine c next = false := by
      simp only [isInsideLine, Bool.and_eq_true, bne_iff_ne] at hc
      simp [endsLine, hc.1, hc.2]
    rw [List.cons_append, collectLines, hinside, if_neg Bool.false_ne_true, ih hbody]
    simp

/-- A line end is collected whole, and one line less is left. -/
theorem collectLines_lineEnd {lineEnd : LineEnd} {rest : List Char} (h : lineEnd.IsWhole rest)
    (limit : Nat) (seen : List Char) :
    collectLines (limit + 1) seen (lineEnd.chars ++ rest) =
      collectLines limit (lineEnd.chars.reverse ++ seen) rest := by
  cases lineEnd with
  | lineFeed => simp [LineEnd.chars, collectLines, endsLine]
  | carriageReturn =>
    have hnext : rest.head? ≠ some '\n' := h
    simp [LineEnd.chars, collectLines, endsLine, hnext]
  | both => simp [LineEnd.chars, collectLines, endsLine]

/-- The lines up to a limit are collected in front of what was seen before. -/
theorem HasLines.collectLines_eq (h : HasLines text lines) (limit : Nat) (seen : List Char) :
    collectLines limit seen text = (lines.take limit).flatten.reverse ++ seen := by
  induction h generalizing limit seen with
  | empty => simp [collectLines]
  | last body hne hbody =>
    cases limit with
    | zero => cases body <;> simp [collectLines]
    | succ limit =>
      have hcollect := collectLines_inside hbody limit seen []
      rw [List.append_nil] at hcollect
      simp [hcollect, collectLines]
  | line body lineEnd rest lines hbody hwhole hrest ih =>
    cases limit with
    | zero => cases body <;> cases lineEnd <;> simp [LineEnd.chars, collectLines]
    | succ limit =>
      rw [List.append_assoc, collectLines_inside hbody, collectLines_lineEnd hwhole, ih]
      simp

/-- Taking lines of a text takes as many of its lines, each with its end. -/
theorem HasLines.takeLines_eq (h : HasLines text lines) (limit : Nat) :
    takeLines limit text = (lines.take limit).flatten := by
  rw [takeLines, h.collectLines_eq]
  simp

/-- Lists of nonempty lines are equal when they start alike for every number of lines. -/
theorem eq_of_flatten_take_eq {lines others : List (List Char)} (hlines : ∀ line ∈ lines, line ≠ [])
    (hothers : ∀ line ∈ others, line ≠ [])
    (h : ∀ limit, (lines.take limit).flatten = (others.take limit).flatten) : lines = others := by
  induction lines generalizing others with
  | nil =>
    cases others with
    | nil => rfl
    | cons other others => simpa [eq_comm, List.forall_mem_cons.mp hothers] using h 1
  | cons line lines ih =>
    cases others with
    | nil => simpa [List.forall_mem_cons.mp hlines] using h 1
    | cons other others =>
      obtain rfl : line = other := by simpa using h 1
      rw [ih (List.forall_mem_cons.mp hlines).2 (List.forall_mem_cons.mp hothers).2]
      intro limit
      simpa using h (limit + 1)

/-- Every text has exactly one list of lines. -/
theorem existsUnique_hasLines (text : List Char) : ∃! lines, HasLines text lines := by
  obtain ⟨lines, hlines⟩ := exists_hasLines text
  refine ⟨lines, hlines, fun others hothers => ?_⟩
  refine eq_of_flatten_take_eq hothers.ne_nil hlines.ne_nil fun limit => ?_
  rw [← hothers.takeLines_eq, hlines.takeLines_eq]

end Text

open Text

/-- A regular file with these bytes stands at a path. -/
def FileStore.IsFile (files : FileStore) (path : List Char) (bytes : List UInt8) : Prop :=
  ∃ names entry, files.resolve? path = some names ∧ files.entry? names = some entry ∧
    entry.node = .file bytes

/-- Exactly the regular files are read, with their bytes. -/
theorem FileStore.read?_eq_some_iff {files : FileStore} {path : List Char} {bytes : List UInt8} :
    files.read? path = some bytes ↔ files.IsFile path bytes := by
  unfold FileStore.read? FileStore.IsFile
  constructor
  · intro h
    split at h
    case h_1 entryPath found modified hfound =>
      obtain ⟨names, hplace, hentry⟩ := Option.bind_eq_some_iff.mp hfound
      exact ⟨names, _, hplace, hentry, by rw [Option.some.inj h]⟩
    case h_2 => cases h
  · rintro ⟨names, ⟨entryPath, node, modified⟩, hplace, hentry, rfl⟩
    simp [hplace, hentry]

variable {files : FileStore} {root path : List Char}

/-- A file that does not look binary is read as far as its lines count. -/
theorem readSource?_of_isFile {text : List Char} {lines : List (List Char)}
    (hfile : files.IsFile (joinPath root path) (encodeUtf8 text))
    (hprobe : 0 ∉ (encodeUtf8 text).take binaryProbe) (hlines : HasLines text lines) :
    readSource? files root path = some (lines.take maxSourceLines).flatten := by
  have hread := FileStore.read?_eq_some_iff.mpr hfile
  simp only [readSource?, hread, Option.bind_eq_bind, Option.bind_some, List.contains_iff_mem,
    hprobe, if_false, decodeUtf8_encodeUtf8, hlines.takeLines_eq]

/-- A file that looks binary is not read. -/
theorem readSource?_of_binary {bytes : List UInt8}
    (hfile : files.IsFile (joinPath root path) bytes) (hprobe : 0 ∈ bytes.take binaryProbe) :
    readSource? files root path = none := by
  have hread := FileStore.read?_eq_some_iff.mpr hfile
  simp only [readSource?, hread, Option.bind_eq_bind, Option.bind_some, List.contains_iff_mem,
    hprobe, if_true]

/-- Only regular files are read. -/
theorem readSource?_of_no_file (hfile : ¬∃ bytes, files.IsFile (joinPath root path) bytes) :
    readSource? files root path = none := by
  have hread : files.read? (joinPath root path) = none := by
    rw [Option.eq_none_iff_forall_ne_some]
    exact fun bytes hbytes => hfile ⟨bytes, FileStore.read?_eq_some_iff.mp hbytes⟩
  simp only [readSource?, hread, Option.bind_eq_bind, Option.bind_none]

/-- A regular file that holds the UTF-8 bytes of a text, none of the first 8192 being zero, is read
as the text if that has at most 100000 lines, and otherwise as the first 100000 of its lines. Other
files, and what is no regular file, are not read. -/
theorem readSource?_isFaithful (files : FileStore) (root path : List Char) :
    (∀ text lines, files.IsFile (joinPath root path) (encodeUtf8 text) → HasLines text lines →
      0 ∉ (encodeUtf8 text).take 8192 →
        (lines.length ≤ 100000 → readSource? files root path = some text) ∧
        (100000 < lines.length →
          readSource? files root path = some (lines.take 100000).flatten)) ∧
      (∀ bytes, files.IsFile (joinPath root path) bytes → 0 ∈ bytes.take 8192 →
        readSource? files root path = none) ∧
      ((¬∃ bytes, files.IsFile (joinPath root path) bytes) →
        readSource? files root path = none) ∧
      ∀ text, ∃! lines, HasLines text lines := by
  refine ⟨fun text lines hfile hlines hprobe => ?_, fun bytes => readSource?_of_binary,
    readSource?_of_no_file, existsUnique_hasLines⟩
  have hread : readSource? files root path = some (lines.take 100000).flatten :=
    readSource?_of_isFile hfile hprobe hlines
  refine ⟨fun hshort => ?_, fun _ => hread⟩
  rw [hread, List.take_of_length_le hshort, hlines.flatten_eq]

/-- A file of empty lines that end in a carriage return and a line feed, one line too long. -/
def longText : List Char :=
  (List.replicate 100001 ['\r', '\n']).flatten

/-- The long file, alone in its directory. -/
def longTextStore : FileStore :=
  { entries := [⟨["a.nxc"], .file (encodeUtf8 longText), 0⟩] }

/-- The lines of the long file. -/
theorem hasLines_replicate (count : Nat) :
    HasLines (List.replicate count ['\r', '\n']).flatten (List.replicate count ['\r', '\n']) := by
  induction count with
  | zero => exact .empty
  | succ count ih => exact .line [] .both _ _ (by simp) trivial ih

/-- The long file does not look binary. -/
theorem zero_notMem_longText : 0 ∉ encodeUtf8 longText := by
  simp only [encodeUtf8, longText, List.mem_flatMap, List.mem_flatten, List.mem_replicate]
  rintro ⟨c, ⟨_, ⟨_, rfl⟩, hc⟩, hbyte⟩
  simp only [List.mem_cons, List.not_mem_nil, or_false] at hc
  rcases hc with rfl | rfl <;> simp [String.utf8EncodeChar] at hbyte

/-- The long file is cut behind the line feed of its line number 100000. -/
theorem readSource?_isFaithful_longText :
    longTextStore.IsFile (joinPath [] "a.nxc".toList) (encodeUtf8 longText) ∧
      0 ∉ (encodeUtf8 longText).take 8192 ∧
      readSource? longTextStore [] "a.nxc".toList =
        some (List.replicate 100000 ['\r', '\n']).flatten := by
  have hfile : longTextStore.IsFile (joinPath [] "a.nxc".toList) (encodeUtf8 longText) :=
    ⟨["a.nxc"], _, by decide, rfl, rfl⟩
  have hprobe : 0 ∉ (encodeUtf8 longText).take 8192 :=
    fun hmem => zero_notMem_longText (List.mem_of_mem_take hmem)
  have hread := ((readSource?_isFaithful longTextStore [] "a.nxc".toList).1 longText _ hfile
    (hasLines_replicate 100001) hprobe).2 (by rw [List.length_replicate]; decide)
  rw [List.take_replicate] at hread
  exact ⟨hfile, hprobe, hread⟩

end BrickLint
