import BrickLint.Analysis
import BrickLint.Catalog.Cache
import BrickLint.Digest.Sha1

/-!
# Sessions

A session analyses documents again and again. The last result for each document is kept together
with a fingerprint of its text, and is given out again while the fingerprint, the configuration and
the catalog stay the same. Requests can be scheduled: they wait for a while, and a newer request for
the same document takes the place of an older one. Timers run on a clock that the host moves. The
tools of the grammar pass see the files and the clock as they are when an analysis runs.
-/

namespace BrickLint

open Text

/-- A request to analyse a document. -/
structure Request where
  /-- The document. -/
  document : String
  /-- Its text. -/
  text : List Char
  /-- The version that the host gives to the text. -/
  version : Option Int := none
  deriving DecidableEq, Repr

/-- What tells texts of a document apart (`fingerprint`): the version if there is one, and else the
digest. -/
def fingerprint (text : List Char) (version : Option Int) : String :=
  match version with
  | some version => "v" ++ toString version
  | none => Digest.sha1 (encodeUtf8 text)

/-- A result that is kept. -/
structure KeptResult where
  /-- The fingerprint of the analysed text. -/
  fingerprint : String
  /-- The result. -/
  result : AnalysisResult
  /-- The number of analyses before this one. -/
  serial : Nat
  deriving DecidableEq, Repr

/-- A timer that has been started. -/
structure Timer where
  /-- The number of timers started before it. -/
  id : Nat
  /-- When it fires. -/
  due : Double
  /-- What is analysed then. -/
  request : Request
  /-- Whether the host is told the result. -/
  notify : Bool
  deriving DecidableEq

/-- The clock of the host and the timers that run on it. -/
structure Clock where
  /-- The present time. -/
  now : Double := .finite 0
  /-- The timers that have neither fired nor been cancelled, in the order of their start. -/
  live : List Timer := []
  /-- How many timers have been started. -/
  started : Nat := 0
  deriving DecidableEq

/-- Starts a timer. -/
def Clock.start (clock : Clock) (delay : Double) (request : Request) (notify : Bool) : Clock :=
  let timer : Timer := ⟨clock.started, clock.now.add delay, request, notify⟩
  { clock with live := clock.live ++ [timer], started := clock.started + 1 }

/-- Cancels a timer. -/
def Clock.cancel (clock : Clock) (id : Nat) : Clock :=
  { clock with live := clock.live.filter fun timer => timer.id != id }

/-- The timers that are due at a time, the earliest first. -/
def Clock.dueBy (clock : Clock) (time : Double) : List Timer :=
  (clock.live.filter fun timer => timer.due.atMost time).mergeSort fun a b => a.due.atMost b.due

/-- What the clock shows when a timer fires: the time when it is due, or the present time if that
has passed. -/
def Clock.firingTime (clock : Clock) (timer : Timer) : Double :=
  if clock.now.atMost timer.due then timer.due else clock.now

/-- The programs that the grammar pass calls. The expander may look at the files and at the clock;
the parser sees nothing but its text. -/
structure Toolbox where
  /-- Expands a text under given definitions, with the files and the time of the moment. -/
  expand? : FileStore → Double → List (String × String) → List Char → Option (List Char)
  /-- Parses a text. -/
  parse? : List Char → Option Grammar.Node

/-- The programs as they work on given files at a given time. -/
def Toolbox.toolsAt (toolbox : Toolbox) (files : FileStore) (time : Double) : Grammar.Tools :=
  ⟨toolbox.expand? files time, toolbox.parse?⟩

/-- A session (`AnalysisSession`). -/
structure Session where
  /-- The configuration. -/
  config : Config := {}
  /-- The source of the catalog. -/
  catalogs : CatalogCache := {}
  /-- The serial number of the catalog that the kept results belong to. -/
  catalogSerial : Option Nat := none
  /-- The kept results by document. -/
  results : List (String × KeptResult) := []
  /-- The pending timers by document. -/
  pending : List (String × Nat) := []
  /-- How many analyses have been run. -/
  runs : Nat := 0

/-- Sets the value of a key in a table. -/
def setEntry {α : Type} (key : String) (value : α) (table : List (String × α)) :
    List (String × α) :=
  table.filter (fun entry => entry.1 != key) ++ [(key, value)]

/-- Removes a key from a table. -/
def eraseEntry {α : Type} (key : String) (table : List (String × α)) : List (String × α) :=
  table.filter fun entry => entry.1 != key

namespace Session

/-- Changes the configuration (`update_config`). No result is kept. -/
def updateConfig (s : Session) (config : Config) : Session :=
  { s with config := config, results := [] }

/-- The present catalog (`current_catalog`). When it is not the one that the kept results belong to,
none of them is kept. -/
def currentCatalog (s : Session) (files : FileStore) : Catalog × Session :=
  let (loaded, catalogs) := s.catalogs.get files
  let s := { s with catalogs := catalogs }
  if s.catalogSerial = some loaded.serial then (loaded.catalog, s)
  else (loaded.catalog, { s with catalogSerial := some loaded.serial, results := [] })

/-- The kept result of a document (`cached_result`). -/
def kept? (s : Session) (document : String) : Option KeptResult :=
  s.results.lookup document

/-- Analyses a document, unless a result for its fingerprint is kept (`analyze_document`). -/
def analyzeDocument (tools : Grammar.Tools) (s : Session) (files : FileStore) (request : Request) :
    KeptResult × Session :=
  let mark := fingerprint request.text request.version
  let (catalog, s) := s.currentCatalog files
  match (s.kept? request.document).filter fun kept => kept.fingerprint == mark with
  | some kept => (kept, s)
  | none =>
    let kept : KeptResult := ⟨mark, analyze tools catalog s.config request.text, s.runs⟩
    (kept, { s with results := setEntry request.document kept s.results, runs := s.runs + 1 })

/-- Schedules a request (`schedule`). A pending request for the same document is cancelled. -/
def schedule (s : Session) (clock : Clock) (request : Request) (notify : Bool) :
    Session × Clock :=
  let clock := (s.pending.lookup request.document).elim clock clock.cancel
  ({ s with pending := setEntry request.document clock.started s.pending },
    clock.start s.config.debounceSeconds request notify)

/-- Fires a timer (`fire`): its document is no longer pending unless a newer timer is, and is
analysed. -/
def fire (tools : Grammar.Tools) (s : Session) (files : FileStore) (timer : Timer) :
    KeptResult × Session :=
  let document := timer.request.document
  let pending :=
    if s.pending.lookup document = some timer.id then eraseEntry document s.pending else s.pending
  { s with pending := pending }.analyzeDocument tools files timer.request

/-- Forgets a document (`close_document`): its pending request is cancelled and its result is not
kept. -/
def closeDocument (s : Session) (clock : Clock) (document : String) : Session × Clock :=
  ({ s with pending := eraseEntry document s.pending, results := eraseEntry document s.results },
    (s.pending.lookup document).elim clock clock.cancel)

/-- Forgets all documents (`close`). -/
def close (s : Session) (clock : Clock) : Session × Clock :=
  ({ s with pending := [], results := [] },
    s.pending.foldl (fun clock entry => clock.cancel entry.2) clock)

/-- Points the session at new catalog sources, where given, and reads them. -/
def reloadCatalog (s : Session) (files : FileStore) (source constantsSource : Option String) :
    Session :=
  { s with catalogs := (s.catalogs.reload files source constantsSource).2 }

/-- Fires timers one after the other and collects the results that the host is told. -/
def fireAll (toolbox : Toolbox) (s : Session) (clock : Clock) (files : FileStore) :
    List Timer → List (String × KeptResult) × Session × Clock
  | [] => ([], s, clock)
  | timer :: rest =>
    let (kept, s) := s.fire (toolbox.toolsAt files (clock.firingTime timer)) files timer
    let (told, s, clock) := fireAll toolbox s (clock.cancel timer.id) files rest
    (if timer.notify then (timer.request.document, kept) :: told else told, s, clock)

/-- Moves the clock. The timers that are due by then fire, in the order of their times and, at equal
times, of their start. -/
def advance (toolbox : Toolbox) (s : Session) (clock : Clock) (files : FileStore)
    (seconds : Double) : List (String × KeptResult) × Session × Clock :=
  let time := clock.now.add seconds
  let (told, s, clock) := s.fireAll toolbox clock files (clock.dueBy time)
  (told, s, { clock with now := time })

end Session

end BrickLint
