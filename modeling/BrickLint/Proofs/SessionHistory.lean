import BrickLint.Proofs.SessionCache

/-!
# Histories of a session

Kept results are followed through all that a host can do with its session. The configuration and the
catalog sources that a result must belong to are taken from the actions of the host, and the files
and the time from the moment when the result is asked for.
-/

namespace BrickLint

/-- What a host must be told for an inquiry, with the setup of its moment: the result of an analysis
with this setup and the present catalog. Its hints may come from the tools as they were at an
earlier inquiry about the text, and only if the expander made something else of the text then. -/
structure Inquiry.IsAnswered (toolbox : Toolbox) (setup : Setup) (history : History)
    (inquiry : Inquiry) (given : String × KeptResult) : Prop where
  /-- The result is told with its document. -/
  document : given.1 = inquiry.request.document
  /-- Hints apart, the result is the one of an analysis at this moment. -/
  sameButHints : given.2.result.SameButHints
    (setup.analysis (inquiry.tools toolbox) inquiry.files inquiry.request.text)
  /-- The result is the one of an analysis with the tools of an inquiry about the same text. -/
  exists_analysis : ∃ older ∈ history.inquiries, inquiry.SameText older ∧
    given.2.result = setup.analysis (older.tools toolbox) inquiry.files inquiry.request.text
  /-- The result is the one of an analysis at this moment, unless the grammar pass runs and the
  expander made something else of the text at an earlier moment. -/
  result_eq : (setup.config.grammarCheck = true → setup.config.grammarPreprocess = true →
      ∀ older ∈ history.inquiries, inquiry.SameText older →
        toolbox.expand? older.files older.time setup.config.defines
            (Dialect.toC inquiry.request.text) =
          toolbox.expand? inquiry.files inquiry.time setup.config.defines
            (Dialect.toC inquiry.request.text)) →
    given.2.result = setup.analysis (inquiry.tools toolbox) inquiry.files inquiry.request.text

namespace Session

variable {toolbox : Toolbox} {history : History} {s : Session}

/-- An inquiry is answered as it must be, and the session stays consistent. -/
theorem Consistent.analyzeDocument (hs : s.Consistent toolbox history)
    (hhistory : history.IsFaithful) {inquiry : Inquiry} (hfiles : inquiry.files ∈ history.stores)
    (hinquiry : inquiry ∈ history.inquiries) :
    inquiry.IsAnswered toolbox s.setup history (inquiry.request.document,
        (s.analyzeDocument (inquiry.tools toolbox) inquiry.files inquiry.request).1) ∧
      (s.analyzeDocument (inquiry.tools toolbox) inquiry.files inquiry.request).2.Consistent
        toolbox history := by
  refine ⟨?_, hs.consistent_analyzeDocument inquiry hfiles hinquiry⟩
  obtain ⟨older, holder, hsame, hresult⟩ := hs.result_analyzeDocument inquiry hfiles hinquiry
    (fun path hpath older holder => hhistory.agree path hpath older holder _ hfiles)
    (fun older holder => hhistory.text_eq older holder inquiry hinquiry)
  refine ⟨rfl, ?_, ⟨older, holder, hsame, hresult⟩, fun hexpand => ?_⟩
  · rw [hresult]
    exact analyze_sameButHints _ _ _ _ _
  · rw [hresult]
    exact analyze_congr _ rfl fun hcheck hpreprocess =>
      hexpand hcheck hpreprocess older holder hsame

/-- Timers that fire one after the other are answered as they must be. -/
theorem Consistent.fireAll (hs : s.Consistent toolbox history) (hhistory : history.IsFaithful)
    {files : FileStore} (hfiles : files ∈ history.stores) (clock : Clock) {timers : List Timer}
    (htimers : ∀ timer ∈ timers,
      (⟨timer.request, files, clock.firingTime timer⟩ : Inquiry) ∈ history.inquiries) :
    List.Forall₂ (Inquiry.IsAnswered toolbox s.setup history)
        ((timers.filter (·.notify)).map fun timer =>
          ⟨timer.request, files, clock.firingTime timer⟩)
        (s.fireAll toolbox clock files timers).1 ∧
      (s.fireAll toolbox clock files timers).2.1.Consistent toolbox history := by
  induction timers generalizing s clock with
  | nil => exact ⟨.nil, hs⟩
  | cons timer rest ih =>
    obtain ⟨htimer, hrest⟩ := List.forall_mem_cons.mp htimers
    have hreleased : (s.release timer).Consistent toolbox history :=
      hs.restrict (fun _ hentry => hentry) _
    obtain ⟨hanswered, hfired⟩ := hreleased.analyzeDocument hhistory hfiles htimer
    have hsetup : ((s.fire (toolbox.toolsAt files (clock.firingTime timer)) files timer).2).setup =
        s.setup := s.setup_fire _ files timer
    obtain ⟨htold, hconsistent⟩ := ih hfired (clock.cancel timer.id) hrest
    refine ⟨?_, hconsistent⟩
    rw [← fire_eq, Inquiry.tools, hsetup] at htold
    unfold Session.fireAll
    simp only [List.filter_cons]
    split
    · exact .cons hanswered htold
    · exact htold

end Session

namespace Host

variable {toolbox : Toolbox} {history : History} {host : Host}

/-- A host sets its session up as its action says. -/
theorem setup_perform (toolbox : Toolbox) (host : Host) (action : HostAction) :
    (host.perform toolbox action).2.session.setup = host.session.setup.next action := by
  cases action with
  | analyze request => exact host.session.setup_analyzeDocument _ host.files request
  | advance seconds => exact host.session.setup_fireAll toolbox host.clock host.files _
  | reloadCatalog source constantsSource =>
    exact host.session.setup_reloadCatalog host.files source constantsSource
  | _ => rfl

/-- A host with a new session. -/
def start (setup : Setup) (files : FileStore) : Host where
  session :=
    { config := setup.config
      catalogs := { source := setup.source, constantsSource := setup.constantsSource } }
  files := files

/-- A new session is consistent. -/
theorem consistent_start (toolbox : Toolbox) (setup : Setup) (files : FileStore)
    (actions : List HostAction) :
    (start setup files).session.Consistent toolbox ((start setup files).history toolbox actions) :=
  ⟨nofun, fun _ hpath => List.mem_append_left _ hpath, nofun, nofun⟩

end Host

/-- A node of a parse tree in the second row of a text. -/
def sampleNode (type : String) (first behind : Nat) (field : Option String := none)
    (children : List Grammar.Node := []) : Grammar.Node :=
  .mk ⟨type, first, behind, 1, first - 14, 1, false, false, true, field⟩ children

/-- The tree of a line marker and the definition of a function. -/
def definitionTree : Grammar.Node :=
  .mk ⟨"translation_unit", 0, 30, 0, 0, 2, false, false, true, none⟩
    [.mk ⟨"preproc_call", 0, 14, 0, 0, 1, false, false, true, none⟩ [],
      sampleNode "function_definition" 14 29 none
        [sampleNode "primitive_type" 14 18 (some "type"),
          sampleNode "function_declarator" 19 25 (some "declarator")
            [sampleNode "identifier" 19 23 (some "declarator"),
              sampleNode "parameter_list" 23 25 (some "parameters")],
          sampleNode "compound_statement" 26 29 (some "body")]]

/-- The tree of a line marker and the declaration of a variable. -/
def declarationTree : Grammar.Node :=
  .mk ⟨"translation_unit", 0, 21, 0, 0, 2, false, false, true, none⟩
    [.mk ⟨"preproc_call", 0, 14, 0, 0, 1, false, false, true, none⟩ [],
      sampleNode "declaration" 14 20 none
        [sampleNode "primitive_type" 14 17 (some "type"),
          sampleNode "identifier" 18 19 (some "declarator")]]

/-- The text of a header that defines the entry point, with the marker of its first line. -/
def definitionText : List Char :=
  "#line 1 \"h.h\"\nvoid main() \x7b \x7d\n".toList

/-- Tools for a text that holds nothing but the inclusion of the header: they put the header in its
place and parse the two texts that come out of that. -/
def headerTools : Toolbox where
  expand? files _ _ _ :=
    (files.read? "h.h".toList).map fun bytes =>
      "#line 1 \"h.h\"\n".toList ++ Text.decodeUtf8 bytes
  parse? text := some (if text = definitionText then definitionTree else declarationTree)

/-- The header, and a file with the signature of one function. -/
def sampleStore : FileStore where
  entries :=
    [⟨["api.txt"], .file [87, 97, 105, 116, 40, 41], 1⟩,
      ⟨["h.h"], .file (Text.encodeUtf8 "void main() \x7b \x7d\n".toList), 1⟩]

/-- A request that comes with a version. -/
def sampleRequest : Request :=
  ⟨"robot.nxc", "#include \"h.h\"\n".toList, some 7⟩

/-- The signature of another function is written to the file. -/
def sampleChange : FileChange :=
  .write "api.txt".toList (.file [79, 102, 102, 40, 41]) 2

end BrickLint
