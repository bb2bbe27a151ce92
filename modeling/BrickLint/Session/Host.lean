import BrickLint.Session

/-!
# Hosts

A host owns a session, moves its clock and sees the files change. Everything that can happen to a
session is an action of its host, so a history is a list of actions.
-/

namespace BrickLint

/-- A session with the clock and the files around it. -/
structure Host where
  /-- The session. -/
  session : Session := {}
  /-- The clock. -/
  clock : Clock := {}
  /-- The files. -/
  files : FileStore := {}

/-- What a host does with its session. -/
inductive HostAction where
  /-- Asks for the analysis of a document. -/
  | analyze (request : Request)
  /-- Asks for the kept result of a document. -/
  | recall (document : String)
  /-- Schedules a request; the flag says whether the host is told the result. -/
  | schedule (request : Request) (notify : Bool)
  /-- Lets time pass. -/
  | advance (seconds : Double)
  /-- Forgets a document. -/
  | closeDocument (document : String)
  /-- Forgets all documents. -/
  | close
  /-- Changes the configuration. -/
  | updateConfig (config : Config)
  /-- Points the session at new catalog sources, where given, and reads them. -/
  | reloadCatalog (source constantsSource : Option String)
  /-- Sees the files change. -/
  | changeFiles (change : FileChange)

namespace Host

/-- Performs an action. The results that the host gets are listed with their documents, in order. -/
def perform (toolbox : Toolbox) (host : Host) : HostAction → List (String × KeptResult) × Host
  | .analyze request =>
    let tools := toolbox.toolsAt host.files host.clock.now
    let (kept, session) := host.session.analyzeDocument tools host.files request
    ([(request.document, kept)], { host with session := session })
  | .recall document => ((host.session.kept? document).toList.map (document, ·), host)
  | .schedule request notify =>
    let (session, clock) := host.session.schedule host.clock request notify
    ([], { host with session := session, clock := clock })
  | .advance seconds =>
    let (told, session, clock) := host.session.advance toolbox host.clock host.files seconds
    (told, { host with session := session, clock := clock })
  | .closeDocument document =>
    let (session, clock) := host.session.closeDocument host.clock document
    ([], { host with session := session, clock := clock })
  | .close =>
    let (session, clock) := host.session.close host.clock
    ([], { host with session := session, clock := clock })
  | .updateConfig config => ([], { host with session := host.session.updateConfig config })
  | .reloadCatalog source constantsSource =>
    ([], { host with session := host.session.reloadCatalog host.files source constantsSource })
  | .changeFiles change => ([], { host with files := host.files.change change })

/-- Performs actions one after the other. The results are listed action by action. -/
def performAll (toolbox : Toolbox) (host : Host) :
    List HostAction → List (List (String × KeptResult)) × Host
  | [] => ([], host)
  | action :: rest =>
    let (given, host) := host.perform toolbox action
    let (others, host) := host.performAll toolbox rest
    (given :: others, host)

/-- The catalog sources that an action makes the session look at, if it does. -/
def consulted? (host : Host) : HostAction → Option CatalogCache
  | .analyze _ => some host.session.catalogs
  | .advance seconds =>
    if (host.clock.dueBy (host.clock.now.add seconds)).isEmpty then none
    else some host.session.catalogs
  | .reloadCatalog source constantsSource =>
    some (host.session.catalogs.redirect source constantsSource)
  | _ => none

/-- Performs an action, unless it looks at a catalog source that is no path. -/
def perform? (toolbox : Toolbox) (host : Host) (action : HostAction) :
    Option (List (String × KeptResult) × Host) :=
  if (host.consulted? action).all (·.isReadable) then some (host.perform toolbox action) else none

end Host

end BrickLint
