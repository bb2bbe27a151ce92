import BrickLint.Catalog
import BrickLint.Proofs.HeaderTokens
import BrickLint.Proofs.SourceText
import BrickLint.Proofs.VisualLine

/-!
# Catalog files are read back

A catalog file is written as lines of signatures with remarks between them. Reading it gives the
signatures that were written, whatever their parameters hold: a signature ends at the first place
behind which nothing stands but a parenthesis and a semicolon, and the parenthesis that closes the
parameters keeps every earlier place from being one.
-/

namespace BrickLint

open Text

namespace Catalog

/-- A line of a catalog file. -/
inductive FileLine where
  /-- A function, its parameters, and whether a semicolon follows. -/
  | signature (name parameters : String) (semicolon : Bool)
  /-- A line that holds no signature. -/
  | remark (text : List Char)

namespace FileLine

/-- The text of a line. -/
def text : FileLine → List Char
  | .signature name parameters semicolon =>
    name.toList ++ '(' :: (parameters.toList ++ ')' :: if semicolon then [';'] else [])
  | .remark text => text

/-- The signature that a line holds. -/
def signature? : FileLine → Option (String × String)
  | .signature name parameters _ => some (name, parameters)
  | .remark _ => none

/-- What can be written on a line. The parameters have no blanks around them, and a remark is blank
or starts with two slashes or a hash. No line holds a line break. -/
def IsWritable : FileLine → Prop
  | .signature name parameters _ =>
    isIdentifier name = true ∧ strip parameters.toList = parameters.toList ∧
      ∀ c ∈ parameters.toList, isLineBreak c = false
  | .remark text =>
    (strip text = [] ∨ "//".toList <+: strip text ∨ "#".toList <+: strip text) ∧
      ∀ c ∈ text, isLineBreak c = false

end FileLine

/-- The text of a catalog file: its lines, with line ends of one kind between them. -/
def fileText (lineEnd : LineEnd) (lines : List FileLine) : List Char :=
  lineEnd.chars.intercalate (lines.map FileLine.text)

/-- Dropping a first character keeps the others, and the first one if it is not meant. -/
theorem mem_dropChar {c d : Char} {cs : List Char} (h : d ∈ cs.tail ∨ d ∈ cs ∧ d ≠ c) :
    d ∈ dropChar c cs := by
  unfold dropChar
  split
  case isTrue hhead =>
    obtain ⟨rest, rfl⟩ := List.head?_eq_some_iff.mp hhead
    exact h.elim id fun hmem => (List.mem_cons.mp hmem.1).resolve_left hmem.2
  case isFalse => exact h.elim List.mem_of_mem_tail And.left

/-- No signature ends in front of a parenthesis that stands behind another character. -/
theorem isSignatureEnd_eq_false {c : Char} {cs : List Char} (h : ')' ∈ cs) :
    isSignatureEnd (c :: cs) = false := by
  have hopen : ')' ∈ dropChar ')' (c :: cs) := mem_dropChar (Or.inl h)
  have hkept : ')' ∈ stripStart (dropChar ')' (c :: cs)) := by
    rw [← List.takeWhile_append_dropWhile (p := isBlank) (l := dropChar ')' (c :: cs))] at hopen
    refine (List.mem_append.mp hopen).resolve_left fun hblank => ?_
    have := List.all_eq_true.mp List.all_takeWhile _ hblank
    exact absurd this (by decide)
  have hlast : ')' ∈ dropChar ';' (stripStart (dropChar ')' (c :: cs))) :=
    mem_dropChar (Or.inr ⟨hkept, by decide⟩)
  rw [isSignatureEnd, List.all_eq_false]
  exact ⟨')', hlast, by decide⟩

/-- The parameters reach up to the parenthesis that closes them. -/
theorem parameterText?_append {parameters : List Char} (h : '\n' ∉ parameters) (semicolon : Bool) :
    parameterText? (parameters ++ ')' :: if semicolon then [';'] else []) = some parameters := by
  induction parameters with
  | nil => cases semicolon <;> rfl
  | cons c parameters ih =>
    obtain ⟨hc, hrest⟩ := not_or.mp (mt List.mem_cons.mpr h)
    rw [List.cons_append, parameterText?, isSignatureEnd_eq_false (by simp),
      if_neg Bool.false_ne_true, if_neg (Ne.symm hc), ih hrest]
    rfl

/-- A written signature is read. -/
theorem parseSignature?_signature {name parameters : String} {semicolon : Bool}
    (h : (FileLine.signature name parameters semicolon).IsWritable) :
    parseSignature? (FileLine.signature name parameters semicolon).text =
      some (name, parameters) := by
  obtain ⟨hname, hstrip, hbreak⟩ := h
  have hrow : '\n' ∉ parameters.toList := fun hmem => absurd (hbreak _ hmem) (by decide)
  have hopen : ∀ cs, stripStart ('(' :: cs) = '(' :: cs := fun cs =>
    stripStart_eq_self (show (some '(').any isBlank = false by decide)
  have hsplit : ∀ cs, splitIdent? (name.toList ++ '(' :: cs) = some (name.toList, '(' :: cs) :=
    fun cs => splitIdent?_identifier hname (show (some '(').any isIdentChar = false by decide)
  simp only [FileLine.text, parseSignature?, hsplit, Option.bind_eq_bind, Option.bind_some, hopen,
    afterChar?, if_true, parameterText?_append hrow, hstrip, String.ofList_toList]
  rfl

/-- A text without blanks at its ends has none to strip. -/
theorem strip_eq_self {cs : List Char} (hfirst : cs.head?.any isBlank = false)
    (hlast : cs.getLast?.any isBlank = false) : strip cs = cs := by
  have hreverse : stripStart cs.reverse = cs.reverse :=
    stripStart_eq_self (by rwa [List.head?_reverse])
  rw [strip, stripStart_eq_self hfirst, stripEnd, dropEndWhile]
  change (stripStart cs.reverse).reverse = cs
  rw [hreverse, List.reverse_reverse]

/-- No character of an identifier breaks a line. -/
theorem isLineBreak_of_isIdentChar {c : Char} (h : isIdentChar c = true) :
    isLineBreak c = false := by
  have hcode := (isIdentChar_iff c).mp h
  simp only [isLineBreak, Bool.or_eq_false_iff, Bool.and_eq_false_iff, decide_eq_false_iff_not,
    Nat.not_le, beq_eq_false_iff_ne]
  omega

variable {line : FileLine}

/-- A line that can be written holds no line break. -/
theorem FileLine.isLineBreak_of_mem (h : line.IsWritable) :
    ∀ c ∈ line.text, isLineBreak c = false := by
  cases line with
  | signature name parameters semicolon =>
    obtain ⟨hname, _, hbreak⟩ := h
    intro c hc
    rcases List.mem_append.mp hc with hc | hc
    · exact isLineBreak_of_isIdentChar (isIdentChar_of_mem hname hc)
    rcases List.mem_cons.mp hc with rfl | hc
    · decide
    rcases List.mem_append.mp hc with hc | hc
    · exact hbreak c hc
    rcases List.mem_cons.mp hc with rfl | hc
    · decide
    · cases semicolon with
      | false => simp at hc
      | true =>
        obtain rfl := List.mem_singleton.mp hc
        decide
  | remark text => exact h.2

/-- A written signature is an entry. -/
theorem entryText?_signature {name parameters : String} (semicolon : Bool)
    (hname : isIdentifier name = true) :
    entryText? (FileLine.signature name parameters semicolon).text =
      some (FileLine.signature name parameters semicolon).text := by
  obtain ⟨c, cs, hchars, hstart, _⟩ := (isIdentifier_iff name).mp hname
  have hblank : isBlank c = false := isBlank_of_isIdentChar (isIdentChar_of_isIdentStart hstart)
  have hslash : '/' ≠ c := ne_of_isIdentStart hstart (by decide) |>.symm
  have hhash : '#' ≠ c := ne_of_isIdentStart hstart (by decide) |>.symm
  have hfirst : (FileLine.signature name parameters semicolon).text =
      c :: (cs ++ '(' :: (parameters.toList ++ ')' :: if semicolon then [';'] else [])) := by
    rw [FileLine.text, hchars, List.cons_append]
  have hlast : (FileLine.signature name parameters semicolon).text.getLast?.any isBlank =
      false := by
    cases semicolon with
    | false =>
      have htext : (FileLine.signature name parameters false).text =
          (name.toList ++ '(' :: parameters.toList) ++ [')'] := by simp [FileLine.text]
      rw [htext, List.getLast?_concat]
      decide
    | true =>
      have htext : (FileLine.signature name parameters true).text =
          (name.toList ++ '(' :: (parameters.toList ++ [')'])) ++ [';'] := by simp [FileLine.text]
      rw [htext, List.getLast?_concat]
      decide
  have hstrip := strip_eq_self (by rw [hfirst]; simpa using hblank) hlast
  rw [entryText?, hstrip, hfirst]
  simp [hslash, hhash]

/-- A remark is no entry. -/
theorem entryText?_remark {text : List Char} (h : (FileLine.remark text).IsWritable) :
    entryText? text = none := by
  unfold entryText?
  rcases h.1 with hblank | hslashes | hhash
  · simp [hblank]
  · simp only [List.isPrefixOf_iff_prefix.mpr hslashes, Bool.or_true, Bool.true_or, if_true]
  · simp only [List.isPrefixOf_iff_prefix.mpr hhash, Bool.or_true, if_true]

/-- A written line is read as the signature that it holds. -/
theorem signature?_of_isWritable (h : line.IsWritable) :
    (entryText? line.text).bind parseSignature? = line.signature? := by
  cases line with
  | signature name parameters semicolon =>
    rw [entryText?_signature semicolon h.1, Option.bind_some, parseSignature?_signature h]
    rfl
  | remark text =>
    rw [FileLine.text, entryText?_remark h]
    rfl

/-- A line end ends a visual line. -/
theorem visualLines_append_lineEnd {row rest : List Char}
    (hrow : ∀ c ∈ row, isLineBreak c = false) {lineEnd : LineEnd} (hwhole : lineEnd.IsWhole rest) :
    visualLines (row ++ lineEnd.chars ++ rest) = row :: visualLines rest := by
  induction row with
  | nil =>
    cases lineEnd with
    | lineFeed => simp [LineEnd.chars, visualLines, isLineBreak]
    | carriageReturn =>
      have hnext : rest.head? ≠ some '\n' := hwhole
      simp [LineEnd.chars, visualLines, isLineBreak, hnext]
    | both => simp [LineEnd.chars, visualLines, isLineBreak]
  | cons c row ih =>
    obtain ⟨hc, hrow⟩ := List.forall_mem_cons.mp hrow
    have hreturn : c ≠ '\r' := by
      rintro rfl
      exact absurd hc (by decide)
    rw [List.cons_append, List.cons_append, visualLines, if_neg fun h => hreturn h.1, hc,
      if_neg Bool.false_ne_true, ih hrow]
    rfl

/-- A text without line breaks is one visual line, unless it is empty. -/
theorem visualLines_eq_singleton {row : List Char} (hrow : ∀ c ∈ row, isLineBreak c = false)
    (hne : row ≠ []) : visualLines row = [row] := by
  have hreturn : dropReturn row = row := if_neg fun hlast =>
    absurd (hrow _ (List.mem_of_getLast? hlast)) (by decide)
  have hplain : IsPlainRow row := fun c hc => hrow c (hreturn ▸ hc)
  rw [visualLines_lastRow hplain hne, hreturn]

/-- Lines that are joined do not start with the second half of a line end. -/
theorem isWhole_intercalate (lineEnd : LineEnd) {lines : List (List Char)}
    (hlines : ∀ row ∈ lines, ∀ c ∈ row, isLineBreak c = false) :
    lineEnd.IsWhole (lineEnd.chars.intercalate lines) := by
  cases lineEnd with
  | lineFeed => trivial
  | both => trivial
  | carriageReturn =>
    change (['\r'].intercalate lines).head? ≠ some '\n'
    match lines with
    | [] => simp
    | [row] =>
      rw [List.intercalate_singleton]
      intro hhead
      exact absurd (hlines row (by simp) _ (List.mem_of_head? hhead)) (by decide)
    | row :: next :: lines =>
      rw [List.intercalate_cons_cons]
      cases row with
      | nil => simp
      | cons c row =>
        have hc := hlines (c :: row) List.mem_cons_self c List.mem_cons_self
        rintro ⟨⟩
        exact absurd hc (by decide)

/-- What is found on the visual lines of a file is what is found on the lines that were joined, when
nothing is found on an empty line. -/
theorem filterMap_visualLines_intercalate {α : Type} {f : List Char → Option α} (hf : f [] = none)
    (lineEnd : LineEnd) {lines : List (List Char)}
    (hlines : ∀ row ∈ lines, ∀ c ∈ row, isLineBreak c = false) :
    (visualLines (lineEnd.chars.intercalate lines)).filterMap f = lines.filterMap f := by
  induction lines with
  | nil => simp [visualLines]
  | cons row lines ih =>
    obtain ⟨hrow, hlines⟩ := List.forall_mem_cons.mp hlines
    cases lines with
    | nil =>
      rw [List.intercalate_singleton]
      by_cases hne : row = []
      · simp [hne, visualLines, hf]
      · rw [visualLines_eq_singleton hrow hne]
    | cons next lines =>
      rw [List.intercalate_cons_cons,
        visualLines_append_lineEnd hrow (isWhole_intercalate lineEnd hlines), List.filterMap_cons,
        List.filterMap_cons, ih hlines]

/-- The signatures of a written file are read in order. -/
theorem filterMap_fileText (lineEnd : LineEnd) {lines : List FileLine}
    (hlines : ∀ line ∈ lines, line.IsWritable) :
    (visualLines (fileText lineEnd lines)).filterMap
        (fun raw => (entryText? raw).bind parseSignature?) =
      lines.filterMap FileLine.signature? := by
  rw [fileText, filterMap_visualLines_intercalate rfl lineEnd, List.filterMap_map]
  · exact List.filterMap_congr fun line hline => signature?_of_isWritable (hlines line hline)
  · intro row hrow
    obtain ⟨line, hline, rfl⟩ := List.mem_map.mp hrow
    exact FileLine.isLineBreak_of_mem (hlines line hline)

section AddNew

variable {α β : Type} [DecidableEq β] {key : α → β}

/-- Adds an element at the end of a table, unless its key is there. -/
def addNew (key : α → β) (table : List α) (entry : α) : List α :=
  if table.any (key · == key entry) then table else table ++ [entry]

/-- Adding elements adds the first element of each new key. -/
theorem foldl_addNew (table entries : List α) :
    entries.foldl (addNew key) table =
      table ++ (entries.filter fun entry => !table.any (key · == key entry)).eraseDupsBy
        fun a b => key a == key b := by
  induction entries generalizing table with
  | nil => simp
  | cons entry entries ih =>
    rw [List.foldl_cons, ih, addNew]
    by_cases hseen : table.any (key · == key entry) = true
    · rw [if_pos hseen, List.filter_cons_of_neg (by simp [hseen])]
    · have hnew : (entries.filter fun other => !(table ++ [entry]).any (key · == key other)) =
          (entries.filter fun other => !table.any (key · == key other)).filter
            fun other => decide ((key other == key entry) = false) := by
        rw [List.filter_filter]
        refine List.filter_congr fun other _ => ?_
        have hcomm : decide (key entry = key other) = decide (key other = key entry) :=
          decide_eq_decide.mpr eq_comm
        simp [List.any_append, Bool.and_comm, beq_eq_decide, hcomm]
      rw [if_neg hseen, List.filter_cons_of_pos (by simpa using hseen), List.eraseDupsBy_cons, hnew,
        List.append_assoc, List.singleton_append]

/-- Among elements with different keys each is the first of its key. -/
theorem eraseDupsBy_eq_self {entries : List α} (h : (entries.map key).Nodup) :
    entries.eraseDupsBy (fun a b => key a == key b) = entries := by
  induction entries with
  | nil => rfl
  | cons entry entries ih =>
    rw [List.map_cons, List.nodup_cons] at h
    have hother : ∀ other ∈ entries, decide ((key other == key entry) = false) = true := by
      intro other hmem
      have hne : key other ≠ key entry := fun heq => h.1 (heq ▸ List.mem_map_of_mem hmem)
      simpa using hne
    rw [List.eraseDupsBy_cons, List.filter_eq_self.mpr hother, ih h.2]

/-- Adding an element keeps the keys of a table different. -/
theorem nodup_addNew {table : List α} (h : (table.map key).Nodup) (entry : α) :
    ((addNew key table entry).map key).Nodup := by
  unfold addNew
  split
  · exact h
  case isFalse hnew =>
    rw [List.map_append, List.nodup_append]
    refine ⟨h, by simp, ?_⟩
    rintro k hk _ hlast rfl
    obtain ⟨other, hother, hkey⟩ := List.mem_map.mp hk
    refine hnew (List.any_eq_true.mpr ⟨other, hother, ?_⟩)
    simpa [hkey] using hlast

/-- Adding elements keeps the keys of a table different. -/
theorem nodup_foldl_addNew {table : List α} (h : (table.map key).Nodup) (entries : List α) :
    ((entries.foldl (addNew key) table).map key).Nodup := by
  induction entries generalizing table with
  | nil => exact h
  | cons entry entries ih => exact ih (nodup_addNew h entry)

end AddNew

/-- A name is looked up in a table first and then in what is added to it. -/
theorem lookup_foldl_addNew (table entries : List (String × String)) (name : String) :
    (entries.foldl (addNew (·.1)) table).lookup name =
      (table.lookup name).or (entries.lookup name) := by
  induction entries generalizing table with
  | nil => simp
  | cons entry entries ih =>
    have hentry : (entry :: entries).lookup name =
        (if name == entry.1 then some entry.2 else none).or (entries.lookup name) := by
      rw [List.lookup_cons]
      split <;> simp [*]
    rw [List.foldl_cons, ih, hentry, ← Option.or_assoc, addNew]
    congr 1
    split
    case isTrue hseen =>
      split
      case isTrue hname =>
        -- The name is in the table, so the later entry is not looked up.
        obtain ⟨other, hother, hkey⟩ := List.any_eq_true.mp hseen
        have hfound : (table.lookup name).isSome = true :=
          List.lookup_isSome_iff.mpr ⟨other, hother, by simp_all⟩
        rw [Option.or_of_isSome hfound]
      case isFalse => simp
    case isFalse =>
      rw [List.lookup_append, List.lookup_cons, List.lookup_nil]
      split <;> simp [*]

/-- The signatures of some lines are the first ones of each name. -/
theorem parseSignatures_eq (raws : List (List Char)) :
    parseSignatures raws =
      (raws.filterMap fun raw => (entryText? raw).bind parseSignature?).foldl
        (addNew Prod.fst) [] :=
  rfl

/-- Further names are added once each. -/
theorem appendNew_eq (names extra : List String) :
    appendNew names extra = extra.foldl (addNew id) names := by
  rw [appendNew]
  congr 1
  funext names name
  simp [addNew]

/-- The essential functions are different. -/
theorem nodup_essentialFunctions : essentialFunctions.Nodup := by
  decide +kernel

/-- Behind the names that were read stand the essential functions that are not among them. -/
theorem appendNew_essentialFunctions (names : List String) :
    appendNew names essentialFunctions =
      names ++ essentialFunctions.filter fun name => !names.contains name := by
  have hfilter : (essentialFunctions.filter fun name => !names.any (id · == id name)) =
      essentialFunctions.filter fun name => !names.contains name :=
    List.filter_congr fun name _ => congrArg (!·) List.any_beq'
  have hnodup : ((essentialFunctions.filter fun name => !names.contains name).map id).Nodup := by
    rw [List.map_id]
    exact nodup_essentialFunctions.filter _
  rw [appendNew_eq, foldl_addNew, hfilter, eraseDupsBy_eq_self hnodup]

variable {files : FileStore} {path : String} {source constantsSource : Option String}
  {lineEnd : LineEnd} {lines : List FileLine}

/-- The signatures of a catalog that is read are the first ones of each name in its file. -/
theorem signatures_load (hlines : ∀ line ∈ lines, line.IsWritable)
    (hfile : files.IsFile (source.getD defaultPath).toList
      (encodeUtf8 (fileText lineEnd lines))) :
    (load files source constantsSource).signatures =
      (lines.filterMap FileLine.signature?).foldl (addNew Prod.fst) [] := by
  have hread : fileLines? files (source.getD defaultPath) =
      some (visualLines (fileText lineEnd lines)) := by
    rw [fileLines?, FileStore.read?_eq_some_iff.mpr hfile, Option.map_some, decodeUtf8_encodeUtf8]
  rw [← filterMap_fileText lineEnd hlines, ← parseSignatures_eq]
  simp only [load, ofSignatures, hread, Option.elim_some]

/-- Reading a written file gives the first signature of each name, and all of them when the names
are different. The functions of the catalog are these names and behind them the essential functions
that are not among them, and the catalog is degraded when the file holds no signature. -/
theorem load_fileText (hlines : ∀ line ∈ lines, line.IsWritable)
    (hfile : files.IsFile path.toList (encodeUtf8 (fileText lineEnd lines))) :
    let pairs := lines.filterMap FileLine.signature?
    let catalog := load files (some path) constantsSource
    catalog.signatures = pairs.eraseDupsBy (fun a b => a.1 == b.1) ∧
      ((pairs.map (·.1)).Nodup → catalog.signatures = pairs) ∧
      (∀ name, catalog.signature? name = pairs.lookup name) ∧
      catalog.functionNames = catalog.signatures.map (·.1) ++
        essentialFunctions.filter (fun name => !(catalog.signatures.map (·.1)).contains name) ∧
      catalog.functionNames.Nodup ∧
      (catalog.degraded = true ↔ pairs = []) ∧
      catalog.source = if pairs = [] then "<embedded>" else path := by
  intro pairs catalog
  have hsignatures : catalog.signatures = pairs.foldl (addNew Prod.fst) [] :=
    signatures_load hlines hfile
  have hfirst : catalog.signatures = pairs.eraseDupsBy fun a b => a.1 == b.1 := by
    rw [hsignatures, foldl_addNew]
    simp
  have hempty : catalog.signatures.isEmpty = true ↔ pairs = [] := by
    rw [hfirst, List.isEmpty_iff]
    cases pairs with
    | nil => simp
    | cons pair pairs => simp [List.eraseDupsBy_cons]
  have hnames : catalog.functionNames =
      appendNew (catalog.signatures.map (·.1)) essentialFunctions := by
    simp only [catalog, load, ofSignatures]
  refine ⟨hfirst, fun hnodup => hfirst.trans (eraseDupsBy_eq_self hnodup), fun name => ?_, ?_, ?_,
    hempty, ?_⟩
  · rw [signature?, hsignatures, lookup_foldl_addNew]
    simp
  · rw [hnames, appendNew_essentialFunctions]
  · have hread : (catalog.signatures.map (·.1)).Nodup := by
      rw [hsignatures]
      exact nodup_foldl_addNew (by simp) pairs
    have hkeys : ∀ extra : List String,
        ((extra.foldl (addNew id) (catalog.signatures.map (·.1))).map id).Nodup :=
      nodup_foldl_addNew (by rwa [List.map_id])
    rw [hnames, appendNew_eq]
    simpa only [List.map_id] using hkeys essentialFunctions
  · have hsource : catalog.source =
        if catalog.signatures.isEmpty then embeddedSource else path := by
      simp only [catalog, load, ofSignatures, Option.getD_some]
    simp only [hsource, hempty, embeddedSource]

instance : DecidablePred FileLine.IsWritable
  | .signature _ parameters _ =>
    @instDecidableAnd _ _ _ (@instDecidableAnd _ _ _
      (List.decidableBAll (isLineBreak · = false) parameters.toList))
  | .remark text => @instDecidableAnd _ _ _ (List.decidableBAll (isLineBreak · = false) text)

/-- A file with parameters that look like the end of a signature, remarks, and a name that is
written twice. -/
def writtenLines : List FileLine :=
  [.remark "// motors (Old);".toList, .signature "Coast" "a); (b ;)" true, .remark [' '],
    .signature "Off" ";" false, .signature "Coast" "later" false, .remark []]

/-- The file, alone in its directory. -/
def writtenStore : FileStore :=
  { entries := [⟨["api.txt"], .file (encodeUtf8 (fileText .both writtenLines)), 0⟩] }

/-- The signatures of the file are read back, and the first line of a name wins. -/
theorem load_fileText_sample :
    (∀ line ∈ writtenLines, line.IsWritable) ∧
      writtenStore.IsFile "api.txt".toList (encodeUtf8 (fileText .both writtenLines)) ∧
      (load writtenStore (some "api.txt") none).signatures =
        [("Coast", "a); (b ;)"), ("Off", ";")] ∧
      (load writtenStore (some "api.txt") none).degraded = false ∧
      (load writtenStore (some "api.txt") none).source = "api.txt" := by
  have hlines : ∀ line ∈ writtenLines, line.IsWritable := by decide
  have hfile : writtenStore.IsFile "api.txt".toList (encodeUtf8 (fileText .both writtenLines)) :=
    ⟨["api.txt"], _, by decide, rfl, rfl⟩
  obtain ⟨hsignatures, _, _, _, _, hdegraded, hsource⟩ :=
    @load_fileText writtenStore "api.txt" none .both writtenLines hlines hfile
  have hpairs : writtenLines.filterMap FileLine.signature? ≠ [] := by decide
  refine ⟨hlines, hfile, hsignatures.trans (by decide), ?_, hsource.trans (if_neg hpairs)⟩
  exact Bool.eq_false_iff.mpr (mt hdegraded.mp hpairs)

end Catalog

end BrickLint
