import BrickLint.Proofs.Analysis
import BrickLint.Proofs.CatalogCache
import BrickLint.Session.Host

/-!
# Kept results

A session keeps results, and drops them when the configuration or the catalog changes. Here it is
shown how far anybody can tell. In every history, a result that is given out is one of an analysis
with the present configuration and the present catalog, and nothing but its hints can be older: they
come from the tools as they were when the text was analysed. A history has to be *faithful* for
that, since a session looks at fingerprints and modification times instead of texts and contents.
-/

namespace BrickLint

/-- What an analysis depends on besides its text, its files and its tools: what a host has set. -/
structure Setup where
  /-- The configuration. -/
  config : Config := {}
  /-- The file of signatures, if one is named. -/
  source : Option String := none
  /-- The file of further constants, if one is named. -/
  constantsSource : Option String := none

namespace Setup

/-- The setup after an action. Sources that a reload does not name stay. -/
def next (setup : Setup) : HostAction → Setup
  | .updateConfig config => { setup with config := config }
  | .reloadCatalog source constantsSource =>
    { setup with
      source := source.or setup.source
      constantsSource := constantsSource.or setup.constantsSource }
  | _ => setup

/-- The setup after some actions. -/
def after (setup : Setup) (actions : List HostAction) : Setup :=
  actions.foldl next setup

/-- The analysis of a text with a setup, with the catalog read from given files. -/
def analysis (setup : Setup) (tools : Grammar.Tools) (files : FileStore) (text : List Char) :
    AnalysisResult :=
  analyze tools (Catalog.load files setup.source setup.constantsSource) setup.config text

end Setup

/-- The setup of a session. -/
def Session.setup (s : Session) : Setup :=
  ⟨s.config, s.catalogs.source, s.catalogs.constantsSource⟩

/-- A request that is passed to the analysis, with the moment when this happens. -/
structure Inquiry where
  /-- The request. -/
  request : Request
  /-- The files at that moment. -/
  files : FileStore
  /-- The time at that moment. -/
  time : Double

/-- The tools as they work at the moment of an inquiry. -/
def Inquiry.tools (toolbox : Toolbox) (inquiry : Inquiry) : Grammar.Tools :=
  toolbox.toolsAt inquiry.files inquiry.time

/-- Two inquiries about one text of one document. -/
structure Inquiry.SameText (inquiry other : Inquiry) : Prop where
  /-- The document is the same. -/
  document : other.request.document = inquiry.request.document
  /-- The text is the same. -/
  text : other.request.text = inquiry.request.text

/-- What a history consists of, apart from the order of its actions. -/
structure History where
  /-- The inquiries. -/
  inquiries : List Inquiry
  /-- The paths from which catalogs are read. -/
  paths : List String
  /-- The files at all moments. -/
  stores : List FileStore

/-- Fingerprints stand for texts, and modification times for contents. -/
structure History.IsFaithful (history : History) : Prop where
  /-- Requests for a document with the same fingerprint carry the same text. -/
  text_eq : ∀ q ∈ history.inquiries, ∀ q' ∈ history.inquiries,
    q.request.document = q'.request.document →
    fingerprint q.request.text q.request.version = fingerprint q'.request.text q'.request.version →
    q.request.text = q'.request.text
  /-- Files at a catalog path with the same modification time have the same content. -/
  agree : ∀ path ∈ history.paths, ∀ files ∈ history.stores, ∀ files' ∈ history.stores,
    files.AgreesAt files' path

/-- The catalog paths that an action introduces. -/
def HostAction.paths : HostAction → List String
  | .reloadCatalog source constantsSource => source.toList ++ constantsSource.toList
  | _ => []

namespace Host

/-- The inquiry of a timer that fires when the clock of a host is moved. -/
def timerInquiry (host : Host) (timer : Timer) : Inquiry :=
  ⟨timer.request, host.files, host.clock.firingTime timer⟩

/-- The inquiries that an action makes. -/
def inquiries (host : Host) : HostAction → List Inquiry
  | .analyze request => [⟨request, host.files, host.clock.now⟩]
  | .advance seconds => (host.clock.dueBy (host.clock.now.add seconds)).map host.timerInquiry
  | _ => []

/-- The inquiries of some actions. -/
def allInquiries (toolbox : Toolbox) (host : Host) : List HostAction → List Inquiry
  | [] => []
  | action :: rest =>
    host.inquiries action ++ (host.perform toolbox action).2.allInquiries toolbox rest

/-- The files of a host before each of some actions. -/
def stores (toolbox : Toolbox) (host : Host) : List HostAction → List FileStore
  | [] => []
  | action :: rest => host.files :: (host.perform toolbox action).2.stores toolbox rest

/-- The history of a host that performs some actions. -/
def history (toolbox : Toolbox) (host : Host) (actions : List HostAction) : History where
  inquiries := host.allInquiries toolbox actions
  paths := host.session.catalogs.paths ++ actions.flatMap HostAction.paths
  stores := host.stores toolbox actions

end Host

namespace Session

/-- A kept result is the result of an inquiry with a catalog and a configuration. -/
def Answers (toolbox : Toolbox) (history : History) (catalog : Catalog) (config : Config)
    (entry : String × KeptResult) : Prop :=
  ∃ inquiry ∈ history.inquiries, inquiry.request.document = entry.1 ∧
    fingerprint inquiry.request.text inquiry.request.version = entry.2.fingerprint ∧
    entry.2.result = analyze (inquiry.tools toolbox) catalog config inquiry.request.text

/-- What holds of a session at all times: its catalog is sound, and while the catalog that the kept
results belong to is the kept catalog, they are the results of inquiries with it. -/
structure Consistent (toolbox : Toolbox) (history : History) (s : Session) : Prop where
  /-- The kept catalog comes from the files of the history. -/
  sound : s.catalogs.Sound history.stores
  /-- The catalog is read from paths of the history. -/
  paths : ∀ path ∈ s.catalogs.paths, path ∈ history.paths
  /-- The catalog that the kept results belong to has been read. -/
  serial_lt : ∀ serial, s.catalogSerial = some serial → serial < s.catalogs.loads
  /-- The kept results are those of inquiries. -/
  kept : ∀ loaded, s.catalogs.current = some loaded → s.catalogSerial = some loaded.serial →
    ∀ entry ∈ s.results, Answers toolbox history loaded.catalog s.config entry

variable {toolbox : Toolbox} {tools : Grammar.Tools} {history : History} {s : Session}
  {files : FileStore}

/-- Asking for the catalog changes no setup. -/
theorem setup_currentCatalog (s : Session) (files : FileStore) :
    (s.currentCatalog files).2.setup = s.setup := by
  obtain ⟨hsource, hconstants⟩ := s.catalogs.get_sources files
  unfold currentCatalog
  simp only
  split
  · simp only [setup, hsource, hconstants]
  · simp only [setup, hsource, hconstants]

/-- The catalog that a session works with is kept. -/
theorem current_currentCatalog {loaded : LoadedCatalog}
    (h : (s.currentCatalog files).2.catalogs.current = some loaded) :
    (s.currentCatalog files).1 = loaded.catalog := by
  have hcurrent := s.catalogs.get_current files
  unfold currentCatalog at h ⊢
  simp only at h ⊢
  split at h
  case isTrue hserial =>
    rw [if_pos hserial, Option.some.inj (hcurrent.symm.trans h)]
  case isFalse hserial =>
    rw [if_neg hserial, Option.some.inj (hcurrent.symm.trans h)]

/-- The catalog that a session works with is what its sources hold now. -/
theorem Consistent.currentCatalog_eq (hs : s.Consistent toolbox history)
    (hagree : ∀ path ∈ history.paths, ∀ older ∈ history.stores, older.AgreesAt files path) :
    (s.currentCatalog files).1 =
      Catalog.load files s.catalogs.source s.catalogs.constantsSource := by
  have hcatalog := hs.sound.catalog_get files fun path hpath => hagree path (hs.paths path hpath)
  unfold currentCatalog
  simp only
  split
  · exact hcatalog
  · exact hcatalog

/-- Asking for the catalog keeps a session consistent, and what is still kept then belongs to the
catalog that is given out. -/
theorem Consistent.currentCatalog (hs : s.Consistent toolbox history)
    (hfiles : files ∈ history.stores) :
    (s.currentCatalog files).2.Consistent toolbox history ∧
      ∀ entry ∈ (s.currentCatalog files).2.results,
        Answers toolbox history (s.currentCatalog files).1 s.config entry := by
  have hsound := hs.sound.get hfiles
  have hcurrent := s.catalogs.get_current files
  have hloads := s.catalogs.le_loads_get files
  have hpaths : (s.catalogs.get files).2.paths = s.catalogs.paths := by
    obtain ⟨hsource, hconstants⟩ := s.catalogs.get_sources files
    rw [CatalogCache.paths, hsource, hconstants, CatalogCache.paths]
  unfold Session.currentCatalog
  simp only
  split
  case isTrue hserial =>
    -- The results belong to the catalog that was kept, so that is the one given out.
    have hkept := CatalogCache.current_of_serial_lt (hs.serial_lt _ hserial)
    have hanswers := hs.kept _ hkept hserial
    refine ⟨⟨hsound, hpaths ▸ hs.paths, ?_, ?_⟩, hanswers⟩
    · intro serial hsome
      exact Nat.lt_of_lt_of_le (hs.serial_lt serial hsome) hloads
    · intro loaded hloaded _
      obtain rfl := Option.some.inj (hcurrent.symm.trans hloaded)
      exact hanswers
  case isFalse =>
    refine ⟨⟨hsound, hpaths ▸ hs.paths, ?_, by simp⟩, by simp⟩
    intro serial hsome
    obtain rfl := Option.some.inj hsome
    exact (hsound _ hcurrent).1

/-- An entry of a changed table is the new one or was there before. -/
theorem mem_setEntry {α : Type} {key : String} {value : α} {table : List (String × α)}
    {entry : String × α} (h : entry ∈ setEntry key value table) :
    entry = (key, value) ∨ entry ∈ table := by
  rcases List.mem_append.mp h with h | h
  · exact .inr (List.mem_filter.mp h).1
  · exact .inl (List.mem_singleton.mp h)

/-- What is found under a key is an entry of the table. -/
theorem mem_of_lookup {α : Type} {key : String} {value : α} {table : List (String × α)}
    (h : table.lookup key = some value) : (key, value) ∈ table := by
  obtain ⟨before, after, rfl, _⟩ := List.lookup_eq_some_iff.mp h
  exact List.mem_append_right _ List.mem_cons_self

/-- An analysis changes no setup. -/
theorem setup_analyzeDocument (tools : Grammar.Tools) (s : Session) (files : FileStore)
    (request : Request) : (s.analyzeDocument tools files request).2.setup = s.setup := by
  have hsetup := s.setup_currentCatalog files
  unfold analyzeDocument
  simp only
  split
  · exact hsetup
  · exact hsetup

/-- Answering an inquiry keeps a session consistent. -/
theorem Consistent.consistent_analyzeDocument (hs : s.Consistent toolbox history)
    (inquiry : Inquiry) (hfiles : inquiry.files ∈ history.stores)
    (hinquiry : inquiry ∈ history.inquiries) :
    (s.analyzeDocument (inquiry.tools toolbox) inquiry.files inquiry.request).2.Consistent
      toolbox history := by
  have hconsistent := (hs.currentCatalog hfiles).1
  unfold Session.analyzeDocument
  simp only
  split
  case h_1 => exact hconsistent
  case h_2 =>
    refine ⟨hconsistent.sound, hconsistent.paths, hconsistent.serial_lt, ?_⟩
    intro loaded hloaded hserial entry hentry
    rcases mem_setEntry hentry with rfl | hentry
    · refine ⟨inquiry, hinquiry, rfl, rfl, ?_⟩
      rw [current_currentCatalog hloaded]
    · exact hconsistent.kept loaded hloaded hserial entry hentry

/-- An inquiry is answered as by an analysis with the present setup and the present catalog. The
tools are those of an inquiry about the same text, if its fingerprint tells a text apart from the
older texts of the document. -/
theorem Consistent.result_analyzeDocument (hs : s.Consistent toolbox history)
    (inquiry : Inquiry) (hfiles : inquiry.files ∈ history.stores)
    (hinquiry : inquiry ∈ history.inquiries)
    (hagree : ∀ path ∈ history.paths, ∀ older ∈ history.stores,
      older.AgreesAt inquiry.files path)
    (htext : ∀ older ∈ history.inquiries, older.request.document = inquiry.request.document →
      fingerprint older.request.text older.request.version =
        fingerprint inquiry.request.text inquiry.request.version →
      older.request.text = inquiry.request.text) :
    ∃ older ∈ history.inquiries, inquiry.SameText older ∧
      (s.analyzeDocument (inquiry.tools toolbox) inquiry.files inquiry.request).1.result =
        s.setup.analysis (older.tools toolbox) inquiry.files inquiry.request.text := by
  have hcatalog := hs.currentCatalog_eq hagree
  have hconfig : (s.currentCatalog inquiry.files).2.config = s.config :=
    congrArg Setup.config (s.setup_currentCatalog inquiry.files)
  have hanswers := (hs.currentCatalog hfiles).2
  unfold Session.analyzeDocument
  simp only
  split
  case h_1 kept hkept =>
    -- A result is kept for the fingerprint, so it is that of an inquiry about the same text.
    obtain ⟨hlookup, hmark⟩ := Option.filter_eq_some_iff.mp hkept
    obtain ⟨older, holder, hdocument, hfingerprint, hresult⟩ := hanswers _ (mem_of_lookup hlookup)
    have heq := htext older holder hdocument (hfingerprint.trans (beq_iff_eq.mp hmark))
    refine ⟨older, holder, ⟨hdocument, heq⟩, ?_⟩
    rw [hresult, heq, hcatalog, Setup.analysis, setup]
  case h_2 =>
    refine ⟨inquiry, hinquiry, ⟨rfl, rfl⟩, ?_⟩
    rw [hcatalog, hconfig, Setup.analysis, setup]

/-- Fewer kept results keep a session consistent, whatever is pending. -/
theorem Consistent.restrict (hs : s.Consistent toolbox history)
    {results : List (String × KeptResult)} (hresults : ∀ entry ∈ results, entry ∈ s.results)
    (pending : List (String × Nat)) :
    { s with results := results, pending := pending }.Consistent toolbox history :=
  ⟨hs.sound, hs.paths, hs.serial_lt, fun loaded hloaded hserial entry hentry =>
    hs.kept loaded hloaded hserial entry (hresults entry hentry)⟩

/-- A session whose table does not list a timer that fires. A newer timer of the same document stays
listed. -/
def release (s : Session) (timer : Timer) : Session :=
  { s with
    pending :=
      if s.pending.lookup timer.request.document = some timer.id then
        eraseEntry timer.request.document s.pending
      else s.pending }

/-- A timer that fires passes its request on. -/
theorem fire_eq (tools : Grammar.Tools) (s : Session) (files : FileStore) (timer : Timer) :
    s.fire tools files timer = (s.release timer).analyzeDocument tools files timer.request :=
  rfl

/-- A timer that fires changes no setup. -/
theorem setup_fire (tools : Grammar.Tools) (s : Session) (files : FileStore) (timer : Timer) :
    (s.fire tools files timer).2.setup = s.setup := by
  rw [fire_eq, setup_analyzeDocument]
  rfl

/-- Timers that fire one after the other change no setup. -/
theorem setup_fireAll (toolbox : Toolbox) (s : Session) (clock : Clock) (files : FileStore)
    (timers : List Timer) : (s.fireAll toolbox clock files timers).2.1.setup = s.setup := by
  induction timers generalizing s clock with
  | nil => rfl
  | cons timer rest ih => exact (ih _ (clock.cancel timer.id)).trans (s.setup_fire _ files timer)

/-- Pointing a session at other sources changes the sources that are named. -/
theorem setup_reloadCatalog (s : Session) (files : FileStore)
    (source constantsSource : Option String) :
    (s.reloadCatalog files source constantsSource).setup =
      s.setup.next (.reloadCatalog source constantsSource) := by
  let redirected := s.catalogs.redirect source constantsSource
  obtain ⟨hsource, hconstants⟩ := redirected.get_sources files
  obtain ⟨hsource', hconstants'⟩ := s.catalogs.redirect_sources source constantsSource
  simp only [setup, reloadCatalog, CatalogCache.reload, Setup.next]
  rw [hsource, hconstants, hsource', hconstants']

/-- Changing the configuration keeps a session consistent. -/
theorem Consistent.updateConfig (hs : s.Consistent toolbox history) (config : Config) :
    (s.updateConfig config).Consistent toolbox history :=
  ⟨hs.sound, hs.paths, hs.serial_lt, nofun⟩

/-- Reading the catalog from other sources keeps a session consistent. -/
theorem Consistent.reloadCatalog (hs : s.Consistent toolbox history)
    (hfiles : files ∈ history.stores) {source constantsSource : Option String}
    (hpaths : ∀ path ∈ source.toList ++ constantsSource.toList, path ∈ history.paths) :
    (s.reloadCatalog files source constantsSource).Consistent toolbox history := by
  let redirected := s.catalogs.redirect source constantsSource
  have hsound : redirected.Sound history.stores :=
    CatalogCache.sound_redirect history.stores s.catalogs source constantsSource
  have hloads : s.catalogs.loads ≤ (redirected.get files).2.loads := redirected.le_loads_get files
  obtain ⟨hsource, hconstants⟩ := redirected.get_sources files
  refine ⟨hsound.get hfiles, ?_, ?_, ?_⟩
  · intro path hpath
    have hpath' : path ∈ redirected.paths := by
      rw [CatalogCache.paths, ← hsource, ← hconstants]
      exact hpath
    exact (CatalogCache.mem_paths_redirect hpath').elim (hs.paths path) (hpaths path)
  · intro serial hserial
    exact Nat.lt_of_lt_of_le (hs.serial_lt serial hserial) hloads
  · -- The catalog has just been read, so the kept results belong to an older one.
    intro loaded hloaded hserial
    have hkept := Option.some.inj ((redirected.get_current files).symm.trans hloaded)
    have hlt := hs.serial_lt _ hserial
    rw [← hkept] at hlt
    cases redirected.current_of_serial_lt hlt

end Session

end BrickLint
