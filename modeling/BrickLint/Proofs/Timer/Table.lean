import BrickLint.Proofs.SessionHistory
import Mathlib.Data.List.Nodup

/-!
# Live timers

A session keeps a table of its pending timers, and the clock of its host knows which timers are
live. The table is changed by scheduling, by forgetting documents and by the timers themselves.
Here it is shown that it always lists exactly the live timers, and what an action does to them.
-/

namespace BrickLint

/-- A table lists exactly the live timers of a clock, at most one for each document. -/
structure Clock.Matches (clock : Clock) (pending : List (String × Nat)) : Prop where
  /-- The table lists the live timers with their documents. -/
  pending_eq : pending = clock.live.map fun timer => (timer.request.document, timer.id)
  /-- No document has two timers. -/
  documents : (clock.live.map (·.request.document)).Nodup
  /-- No two timers have the same number. -/
  ids : (clock.live.map (·.id)).Nodup
  /-- The numbers of later timers are not in use. -/
  id_lt : ∀ timer ∈ clock.live, timer.id < clock.started

namespace Clock

variable {clock : Clock} {pending : List (String × Nat)} {timer other : Timer}

/-- No timer has been started on a new clock. -/
theorem matches_new : ({} : Clock).Matches [] :=
  ⟨rfl, List.nodup_nil, List.nodup_nil, nofun⟩

/-- A live timer is told by its number. -/
theorem Matches.eq_of_id_eq (h : clock.Matches pending) (htimer : timer ∈ clock.live)
    (hother : other ∈ clock.live) (heq : timer.id = other.id) : timer = other :=
  List.inj_on_of_nodup_map h.ids htimer hother heq

/-- A live timer is told by its document. -/
theorem Matches.eq_of_document_eq (h : clock.Matches pending) (htimer : timer ∈ clock.live)
    (hother : other ∈ clock.live) (heq : timer.request.document = other.request.document) :
    timer = other :=
  List.inj_on_of_nodup_map h.documents htimer hother heq

/-- What the table holds for a document is the timer of the document. -/
theorem Matches.exists_of_lookup (h : clock.Matches pending) {document : String} {id : Nat}
    (hlookup : pending.lookup document = some id) :
    ∃ timer ∈ clock.live, timer.request.document = document ∧ timer.id = id := by
  have hmem := Session.mem_of_lookup hlookup
  rw [h.pending_eq] at hmem
  obtain ⟨timer, htimer, heq⟩ := List.mem_map.mp hmem
  exact ⟨timer, htimer, congrArg Prod.fst heq, congrArg Prod.snd heq⟩

/-- A live timer is found in the table. -/
theorem Matches.lookup_eq (h : clock.Matches pending) (htimer : timer ∈ clock.live) :
    pending.lookup timer.request.document = some timer.id := by
  cases hlookup : pending.lookup timer.request.document with
  | none =>
    have hmem : (timer.request.document, timer.id) ∈ pending := by
      rw [h.pending_eq]
      exact List.mem_map_of_mem htimer
    have hne := List.lookup_eq_none_iff.mp hlookup _ hmem
    simp at hne
  | some id =>
    obtain ⟨found, hfound, hdocument, rfl⟩ := h.exists_of_lookup hlookup
    rw [h.eq_of_document_eq hfound htimer hdocument]

/-- Cancelling what the table holds for a document cancels the timer of the document. -/
theorem Matches.live_forget (h : clock.Matches pending) (document : String) :
    ((pending.lookup document).elim clock clock.cancel).live =
      clock.live.filter fun timer => timer.request.document != document := by
  cases hlookup : pending.lookup document with
  | none =>
    refine (List.filter_eq_self.mpr fun timer htimer => ?_).symm
    rw [bne_iff_ne]
    rintro rfl
    rw [h.lookup_eq htimer] at hlookup
    exact Option.some_ne_none _ hlookup
  | some id =>
    obtain ⟨found, hfound, rfl, rfl⟩ := h.exists_of_lookup hlookup
    refine List.filter_congr fun timer htimer => ?_
    rw [Bool.eq_iff_iff, bne_iff_ne, bne_iff_ne, ne_eq, ne_eq, not_iff_not]
    constructor
    · intro heq
      rw [h.eq_of_id_eq htimer hfound heq]
    · intro heq
      rw [h.eq_of_document_eq htimer hfound heq]

/-- Cancelling a timer, if there is one, starts none. -/
theorem started_forget (clock : Clock) (id? : Option Nat) :
    (id?.elim clock clock.cancel).started = clock.started := by
  cases id? <;> rfl

/-- Cancelling a timer, if there is one, takes no time. -/
theorem now_forget (clock : Clock) (id? : Option Nat) :
    (id?.elim clock clock.cancel).now = clock.now := by
  cases id? <;> rfl

/-- Forgetting a document keeps the table in order. -/
theorem Matches.forget (h : clock.Matches pending) (document : String) :
    ((pending.lookup document).elim clock clock.cancel).Matches (eraseEntry document pending) := by
  have hlive := h.live_forget document
  have hsub : ((pending.lookup document).elim clock clock.cancel).live.Sublist clock.live := by
    rw [hlive]
    exact List.filter_sublist
  refine ⟨?_, h.documents.sublist (hsub.map _), h.ids.sublist (hsub.map _), ?_⟩
  · rw [hlive, eraseEntry, h.pending_eq, List.filter_map]
    rfl
  · intro timer htimer
    rw [started_forget]
    exact h.id_lt timer (hsub.subset htimer)

/-- Starting a timer for a document that has none keeps the table in order. -/
theorem Matches.start (h : clock.Matches pending) (delay : Double) {request : Request}
    (hnew : ∀ timer ∈ clock.live, timer.request.document ≠ request.document) (notify : Bool) :
    (clock.start delay request notify).Matches
      (pending ++ [(request.document, clock.started)]) := by
  refine ⟨?_, ?_, ?_, ?_⟩
  · rw [h.pending_eq, Clock.start, List.map_append]
    rfl
  · rw [Clock.start, List.map_append, List.nodup_append]
    refine ⟨h.documents, List.nodup_singleton _, ?_⟩
    intro document hdocument other hother
    obtain ⟨timer, htimer, rfl⟩ := List.mem_map.mp hdocument
    rw [List.mem_singleton.mp hother]
    exact hnew timer htimer
  · rw [Clock.start, List.map_append, List.nodup_append]
    refine ⟨h.ids, List.nodup_singleton _, ?_⟩
    intro id hid other hother
    obtain ⟨timer, htimer, rfl⟩ := List.mem_map.mp hid
    rw [List.mem_singleton.mp hother]
    exact Nat.ne_of_lt (h.id_lt timer htimer)
  · intro timer htimer
    rcases List.mem_append.mp htimer with hold | hnew
    · exact Nat.lt_succ_of_lt (h.id_lt timer hold)
    · rw [List.mem_singleton.mp hnew]
      exact Nat.lt_succ_self _

/-- Cancelling timers one after the other takes them from the live ones and changes nothing else. -/
theorem foldl_cancel (entries : List (String × Nat)) (clock : Clock) :
    entries.foldl (fun clock entry => clock.cancel entry.2) clock =
      { clock with
        live := clock.live.filter fun timer => !(entries.map (·.2)).contains timer.id } := by
  induction entries generalizing clock with
  | nil => simp
  | cons entry entries ih =>
    rw [List.foldl_cons, ih, Clock.cancel, List.filter_filter]
    congr 1
    refine List.filter_congr fun timer _ => ?_
    rw [List.map_cons, List.contains_cons, Bool.not_or, Bool.and_comm]
    rfl

/-- Cancelling all timers of the table leaves no live timer. -/
theorem Matches.live_close (h : clock.Matches pending) :
    (pending.foldl (fun clock entry => clock.cancel entry.2) clock).live = [] := by
  rw [foldl_cancel, List.filter_eq_nil_iff]
  intro timer htimer
  have hmem : timer.id ∈ pending.map (·.2) := by
    rw [h.pending_eq, List.map_map]
    exact List.mem_map_of_mem htimer
  simp [hmem]

/-- The timers that are due are those whose time has come. -/
theorem mem_dueBy {time : Double} :
    timer ∈ clock.dueBy time ↔ timer ∈ clock.live ∧ timer.due.atMost time = true := by
  rw [dueBy, List.mem_mergeSort, List.mem_filter]

/-- No timer is due twice. -/
theorem Matches.nodup_dueBy (h : clock.Matches pending) (time : Double) :
    ((clock.dueBy time).map (·.id)).Nodup := by
  have hperm := (List.mergeSort_perm (clock.live.filter fun timer => timer.due.atMost time)
    fun a b => a.due.atMost b.due).map (·.id)
  exact hperm.nodup_iff.mpr (h.ids.sublist (List.filter_sublist.map _))

end Clock

/-- A timer that fires. -/
structure Firing where
  /-- The timer. -/
  timer : Timer
  /-- The session that the request is passed to. -/
  session : Session
  /-- The tools as they work then. -/
  tools : Grammar.Tools

/-- The analysis of the request of a timer that fires: its result, and the session behind it. -/
def Firing.answer (files : FileStore) (firing : Firing) : KeptResult × Session :=
  firing.session.analyzeDocument firing.tools files firing.timer.request

/-- What the host is told when a timer fires, if it is told anything: the result for the request. -/
def Firing.callback? (files : FileStore) (firing : Firing) : Option (String × KeptResult) :=
  if firing.timer.notify then some (firing.timer.request.document, (firing.answer files).1)
  else none

namespace Session

/-- Timers fire one after the other and turn one session into another. The table does not list a
timer any more when it fires, its request is passed on in any case, and the next timer finds the
session that the analysis leaves behind. -/
def Fires (toolbox : Toolbox) (clock : Clock) (files : FileStore) (s : Session) :
    List Firing → Session → Prop
  | [], t => t = s
  | firing :: rest, t =>
    firing.session = s.release firing.timer ∧
      firing.tools = toolbox.toolsAt files (clock.firingTime firing.timer) ∧
      (firing.answer files).2.Fires toolbox clock files rest t

/-- Timers that fire one after the other, each with the session that its request is passed to. -/
def firings (toolbox : Toolbox) (s : Session) (clock : Clock) (files : FileStore) :
    List Timer → List Firing
  | [] => []
  | timer :: rest =>
    let firing : Firing := ⟨timer, s.release timer, toolbox.toolsAt files (clock.firingTime timer)⟩
    firing :: (firing.answer files).2.firings toolbox clock files rest

variable {toolbox : Toolbox} {s : Session} {clock : Clock} {files : FileStore}

/-- Every timer of a list fires once. -/
theorem map_timer_firings (toolbox : Toolbox) (s : Session) (clock : Clock) (files : FileStore)
    (timers : List Timer) : (s.firings toolbox clock files timers).map (·.timer) = timers := by
  induction timers generalizing s with
  | nil => rfl
  | cons timer rest ih => rw [firings, List.map_cons, ih]

/-- Timers that fire one after the other turn a session into the one that is left behind, and the
host is told the results, in order. -/
theorem fires_fireAll (toolbox : Toolbox) (s : Session) (clock : Clock) (files : FileStore)
    (timers : List Timer) :
    s.Fires toolbox clock files (s.firings toolbox clock files timers)
        (s.fireAll toolbox clock files timers).2.1 ∧
      (s.fireAll toolbox clock files timers).1 =
        (s.firings toolbox clock files timers).filterMap (·.callback? files) := by
  suffices h : ∀ other : Clock, other.now = clock.now →
      s.Fires toolbox clock files (s.firings toolbox clock files timers)
          (s.fireAll toolbox other files timers).2.1 ∧
        (s.fireAll toolbox other files timers).1 =
          (s.firings toolbox clock files timers).filterMap (·.callback? files) from
    h clock rfl
  induction timers generalizing s with
  | nil => exact fun _ _ => ⟨rfl, rfl⟩
  | cons timer rest ih =>
    -- The timers that are cancelled on the way do not change what the clock shows.
    intro other hnow
    let firing : Firing :=
      ⟨timer, s.release timer, toolbox.toolsAt files (clock.firingTime timer)⟩
    have htime : other.firingTime timer = clock.firingTime timer := by
      rw [Clock.firingTime, Clock.firingTime, hnow]
    have hfire : s.fire (toolbox.toolsAt files (other.firingTime timer)) files timer =
        firing.answer files := by
      rw [htime]
      rfl
    obtain ⟨hfires, htold⟩ := ih (firing.answer files).2 (other.cancel timer.id) hnow
    unfold fireAll
    simp only [hfire]
    refine ⟨⟨rfl, rfl, hfires⟩, ?_⟩
    rw [htold, firings, List.filterMap_cons, Firing.callback?]
    cases hnotify : timer.notify with
    | false => simp only [Bool.false_eq_true, if_false]; rfl
    | true => simp only [if_true]; rfl

/-- Asking for the catalog leaves the table alone. -/
theorem pending_currentCatalog (s : Session) (files : FileStore) :
    (s.currentCatalog files).2.pending = s.pending := by
  unfold currentCatalog
  simp only
  split <;> rfl

/-- An analysis leaves the table alone. -/
theorem pending_analyzeDocument (tools : Grammar.Tools) (s : Session) (files : FileStore)
    (request : Request) : (s.analyzeDocument tools files request).2.pending = s.pending := by
  have hpending := s.pending_currentCatalog files
  unfold analyzeDocument
  simp only
  split <;> exact hpending

/-- A timer that fires leaves the table and the clock. -/
theorem matches_fire (h : clock.Matches s.pending) (tools : Grammar.Tools) {timer : Timer}
    (htimer : timer ∈ clock.live) :
    (clock.cancel timer.id).Matches (s.fire tools files timer).2.pending := by
  have hlookup := h.lookup_eq htimer
  have hpending : (s.fire tools files timer).2.pending =
      eraseEntry timer.request.document s.pending := by
    rw [fire_eq, pending_analyzeDocument, release, if_pos hlookup]
  have hforget := h.forget timer.request.document
  rw [hlookup] at hforget
  rw [hpending]
  exact hforget

/-- Timers that fire one after the other leave the table and the clock. -/
theorem matches_fireAll (h : clock.Matches s.pending) (toolbox : Toolbox) (files : FileStore)
    {timers : List Timer} (htimers : ∀ timer ∈ timers, timer ∈ clock.live)
    (hnodup : timers.Nodup) :
    (s.fireAll toolbox clock files timers).2.2.Matches
        (s.fireAll toolbox clock files timers).2.1.pending ∧
      (s.fireAll toolbox clock files timers).2.2.live =
        clock.live.filter fun timer => !timers.contains timer := by
  induction timers generalizing s clock with
  | nil => exact ⟨h, (List.filter_eq_self.mpr fun _ _ => rfl).symm⟩
  | cons timer rest ih =>
    obtain ⟨htimer, hrest⟩ := List.forall_mem_cons.mp htimers
    obtain ⟨hnot, hnodup⟩ := List.nodup_cons.mp hnodup
    have hne : ∀ other ∈ clock.live, (other.id != timer.id) = !(other == timer) := by
      intro other hother
      by_cases heq : other = timer
      · simp [heq]
      · have hid : other.id ≠ timer.id := fun hid => heq (h.eq_of_id_eq hother htimer hid)
        rw [bne_iff_ne.mpr hid, beq_eq_false_iff_ne.mpr heq]
        rfl
    have hstill : ∀ other ∈ rest, other ∈ (clock.cancel timer.id).live := by
      intro other hother
      refine List.mem_filter.mpr ⟨hrest other hother, ?_⟩
      rw [hne other (hrest other hother), Bool.not_eq_true', beq_eq_false_iff_ne]
      rintro rfl
      exact hnot hother
    obtain ⟨hmatches, hlive⟩ := ih (s.matches_fire h _ htimer) hstill hnodup
    refine ⟨hmatches, hlive.trans ?_⟩
    rw [Clock.cancel, List.filter_filter]
    refine List.filter_congr fun other hother => ?_
    rw [hne other hother, List.contains_cons, Bool.not_or, Bool.and_comm]

/-- Timers that fire start no others. -/
theorem started_fireAll (toolbox : Toolbox) (s : Session) (clock : Clock) (files : FileStore)
    (timers : List Timer) :
    (s.fireAll toolbox clock files timers).2.2.started = clock.started := by
  induction timers generalizing s clock with
  | nil => rfl
  | cons timer rest ih => exact ih _ (clock.cancel timer.id)

/-- When the clock is moved, the timers that are not due stay live. -/
theorem matches_advance (h : clock.Matches s.pending) (toolbox : Toolbox) (files : FileStore)
    (seconds : Double) :
    (s.advance toolbox clock files seconds).2.2.Matches
        (s.advance toolbox clock files seconds).2.1.pending ∧
      (s.advance toolbox clock files seconds).2.2.live =
        clock.live.filter fun timer => !timer.due.atMost (clock.now.add seconds) := by
  have hdue : ∀ timer ∈ clock.dueBy (clock.now.add seconds), timer ∈ clock.live :=
    fun timer htimer => (Clock.mem_dueBy.mp htimer).1
  obtain ⟨hmatches, hlive⟩ :=
    s.matches_fireAll h toolbox files hdue (List.Nodup.of_map _ (h.nodup_dueBy _))
  refine ⟨⟨hmatches.pending_eq, hmatches.documents, hmatches.ids, hmatches.id_lt⟩,
    hlive.trans (List.filter_congr fun timer htimer => ?_)⟩
  rw [Bool.eq_iff_iff, Bool.not_eq_true', Bool.not_eq_true', ← Bool.not_eq_true,
    ← Bool.not_eq_true, List.contains_iff_mem, Clock.mem_dueBy]
  exact ⟨fun hnot hatMost => hnot ⟨htimer, hatMost⟩, fun hnot hdue => hnot hdue.2⟩

end Session

namespace HostAction

/-- An action that replaces or forgets the pending request of a document. -/
def supersedes (document : String) : HostAction → Bool
  | .schedule request _ => request.document == document
  | .closeDocument closed => closed == document
  | .close => true
  | _ => false

/-- The clock reading after an action. -/
def elapse (now : Double) : HostAction → Double
  | .advance seconds => now.add seconds
  | _ => now

/-- An action that lets time pass, so that the clock reaches a time. -/
def reaches (time now : Double) : HostAction → Bool
  | .advance seconds => time.atMost (now.add seconds)
  | _ => false

end HostAction

namespace Host

/-- The table of a session lists exactly the live timers, at most one for each document. -/
def TimersAgree (host : Host) : Prop :=
  host.clock.Matches host.session.pending

/-- The timer of a request that is scheduled now. -/
def newTimer (host : Host) (request : Request) (notify : Bool) : Timer :=
  ⟨host.clock.started, host.clock.now.add host.session.config.debounceSeconds, request, notify⟩

/-- The timers that an action starts. -/
def startedBy (host : Host) : HostAction → List Timer
  | .schedule request notify => [host.newTimer request notify]
  | _ => []

/-- The timers that fire in an action. -/
def firings (toolbox : Toolbox) (host : Host) : HostAction → List Firing
  | .advance seconds =>
    host.session.firings toolbox host.clock host.files
      (host.clock.dueBy (host.clock.now.add seconds))
  | _ => []

variable {host : Host}

/-- The timers that stay live when an action supersedes and fires others. -/
def staying (host : Host) (action : HostAction) : List Timer :=
  host.clock.live.filter fun timer =>
    !action.supersedes timer.request.document && !action.reaches timer.due host.clock.now

/-- An action that supersedes nothing and fires nothing lets all timers stay. -/
theorem staying_eq_live {action : HostAction}
    (hsupersedes : ∀ document, action.supersedes document = false)
    (hreaches : ∀ time now, action.reaches time now = false) :
    host.staying action = host.clock.live :=
  List.filter_eq_self.mpr fun timer _ => by rw [hsupersedes, hreaches]; rfl

/-- When a document is forgotten, its timer does not stay. -/
theorem staying_eq_filter {action : HostAction} {document : String}
    (hsupersedes : ∀ other, action.supersedes other = (document == other))
    (hreaches : ∀ time now, action.reaches time now = false) :
    host.staying action =
      host.clock.live.filter fun timer => timer.request.document != document := by
  refine List.filter_congr fun timer _ => ?_
  rw [hsupersedes, hreaches, Bool.not_false, Bool.and_true, BEq.comm]
  rfl

/-- The table lists exactly the live timers after an action too, and the live timers are those that
stay and those that the action starts. -/
theorem TimersAgree.perform (h : host.TimersAgree) (toolbox : Toolbox) (action : HostAction) :
    (host.perform toolbox action).2.TimersAgree ∧
      (host.perform toolbox action).2.clock.live =
        host.staying action ++ host.startedBy action := by
  cases action with
  | analyze request =>
    rw [staying_eq_live (fun _ => rfl) (fun _ _ => rfl)]
    refine ⟨?_, (List.append_nil _).symm⟩
    change host.clock.Matches (host.session.analyzeDocument
      (toolbox.toolsAt host.files host.clock.now) host.files request).2.pending
    rw [Session.pending_analyzeDocument]
    exact h
  | schedule request notify =>
    have hlive := h.live_forget request.document
    have hforget := h.forget request.document
    have hnew : ∀ timer ∈ ((host.session.pending.lookup request.document).elim host.clock
        host.clock.cancel).live, timer.request.document ≠ request.document := by
      intro timer htimer
      rw [hlive] at htimer
      exact bne_iff_ne.mp (List.mem_filter.mp htimer).2
    rw [staying_eq_filter (fun _ => rfl) (fun _ _ => rfl), ← hlive]
    refine ⟨hforget.start host.session.config.debounceSeconds hnew notify, ?_⟩
    rw [startedBy, newTimer, ← Clock.started_forget, ← Clock.now_forget]
    rfl
  | advance seconds =>
    obtain ⟨hmatches, hlive⟩ := host.session.matches_advance h toolbox host.files seconds
    exact ⟨hmatches, hlive.trans (List.append_nil _).symm⟩
  | closeDocument document =>
    rw [staying_eq_filter (fun _ => rfl) (fun _ _ => rfl)]
    exact ⟨h.forget document, (h.live_forget document).trans (List.append_nil _).symm⟩
  | close =>
    have hlive := h.live_close
    have hstaying : host.staying .close = [] := List.filter_eq_nil_iff.mpr fun _ _ => nofun
    rw [hstaying]
    refine ⟨⟨?_, ?_, ?_, ?_⟩, hlive⟩
    · exact (congrArg (List.map _) hlive).symm
    · exact (congrArg (List.map _) hlive) ▸ List.nodup_nil
    · exact (congrArg (List.map _) hlive) ▸ List.nodup_nil
    · exact hlive ▸ nofun
  | «recall» | updateConfig | reloadCatalog | changeFiles =>
    rw [staying_eq_live (fun _ => rfl) (fun _ _ => rfl)]
    exact ⟨h, (List.append_nil _).symm⟩

/-- The clock reading after an action. -/
theorem now_perform (toolbox : Toolbox) (host : Host) (action : HostAction) :
    (host.perform toolbox action).2.clock.now = action.elapse host.clock.now := by
  cases action with
  | schedule request notify => exact Clock.now_forget _ _
  | closeDocument document => exact Clock.now_forget _ _
  | close =>
    have hclock := Clock.foldl_cancel host.session.pending host.clock
    exact (congrArg Clock.now hclock :)
  | _ => rfl

/-- No action takes timers back. -/
theorem started_perform (toolbox : Toolbox) (host : Host) (action : HostAction) :
    (host.perform toolbox action).2.clock.started =
      host.clock.started + (host.startedBy action).length := by
  cases action with
  | schedule request notify => exact congrArg (· + 1) (Clock.started_forget _ _)
  | closeDocument document => exact Clock.started_forget _ _
  | advance seconds => exact Session.started_fireAll _ _ _ _ _
  | close =>
    have hclock := Clock.foldl_cancel host.session.pending host.clock
    exact (congrArg Clock.started hclock :)
  | _ => rfl

end Host

end BrickLint
