import BrickLint.Proofs.Timer.Table

/-!
# Debounced requests

A request that is scheduled waits for a while. It is analysed once, when the clock reaches the end
of its time, unless a newer request for the same document replaces it or the document is forgotten
before; in that case it is never analysed. When a request fires is said here by the actions that
follow it alone, without timers and tables.
-/

namespace BrickLint

/-- The clock reading after some actions. -/
def clockAfter (now : Double) (actions : List HostAction) : Double :=
  actions.foldl HostAction.elapse now

/-- A waiting request for a document fires in action number `i`: with this action the clock reaches
its time, with no earlier action it did, and no earlier action replaces or forgets the request. -/
structure IsFiringStep (document : String) (due now : Double) (actions : List HostAction)
    (i : Nat) : Prop where
  /-- With this action the clock reaches the time. -/
  reaches : ∃ action, actions[i]? = some action ∧
    action.reaches due (clockAfter now (actions.take i)) = true
  /-- With no earlier action the clock reaches the time. -/
  not_earlier : ∀ j < i, ∀ action, actions[j]? = some action →
    action.reaches due (clockAfter now (actions.take j)) = false
  /-- No earlier action replaces or forgets the request. -/
  undisturbed : ∀ j < i, ∀ action, actions[j]? = some action →
    action.supersedes document = false

variable {document : String} {due now : Double} {action : HostAction} {rest : List HostAction}

/-- Without an action nothing fires. -/
theorem not_isFiringStep_nil (i : Nat) : ¬IsFiringStep document due now [] i := by
  rintro ⟨⟨action, haction, _⟩, _, _⟩
  simp at haction

/-- A request fires in the first action if the clock reaches its time with it. -/
theorem isFiringStep_zero :
    IsFiringStep document due now (action :: rest) 0 ↔ action.reaches due now = true := by
  constructor
  · rintro ⟨⟨found, hfound, hreaches⟩, _, _⟩
    obtain rfl := Option.some.inj hfound
    exact hreaches
  · intro hreaches
    exact ⟨⟨action, rfl, hreaches⟩, by simp, by simp⟩

/-- A request fires in a later action if the first one leaves it waiting. -/
theorem isFiringStep_succ {i : Nat} :
    IsFiringStep document due now (action :: rest) (i + 1) ↔
      action.reaches due now = false ∧ action.supersedes document = false ∧
        IsFiringStep document due (action.elapse now) rest i := by
  constructor
  · rintro ⟨⟨found, hfound, hreaches⟩, hnot, hundisturbed⟩
    refine ⟨hnot 0 (Nat.succ_pos i) action rfl, hundisturbed 0 (Nat.succ_pos i) action rfl,
      ⟨found, hfound, hreaches⟩, ?_, ?_⟩
    · exact fun j hj => hnot (j + 1) (Nat.succ_lt_succ hj)
    · exact fun j hj => hundisturbed (j + 1) (Nat.succ_lt_succ hj)
  · rintro ⟨hnow, hsupersedes, ⟨found, hfound, hreaches⟩, hnot, hundisturbed⟩
    refine ⟨⟨found, hfound, hreaches⟩, ?_, ?_⟩
    · rintro (_ | j) hj other hother
      · obtain rfl := Option.some.inj hother
        exact hnow
      · exact hnot j (Nat.lt_of_succ_lt_succ hj) other hother
    · rintro (_ | j) hj other hother
      · obtain rfl := Option.some.inj hother
        exact hsupersedes
      · exact hundisturbed j (Nat.lt_of_succ_lt_succ hj) other hother

/-- A request fires in one action at most. -/
theorem IsFiringStep.unique {actions : List HostAction} {i j : Nat}
    (hi : IsFiringStep document due now actions i) (hj : IsFiringStep document due now actions j) :
    i = j := by
  have hle : ∀ {i j : Nat}, IsFiringStep document due now actions i →
      IsFiringStep document due now actions j → i ≤ j := by
    intro i j hi hj
    obtain ⟨action, haction, hreaches⟩ := hj.reaches
    by_contra hlt
    have hnot := hi.not_earlier j (Nat.lt_of_not_le hlt) action haction
    rw [hreaches] at hnot
    contradiction
  exact Nat.le_antisymm (hle hi hj) (hle hj hi)

/-- An action that matters for the waiting request of a document: it lets time pass, or it replaces
or forgets the request. -/
def HostAction.concerns (document : String) : HostAction → Bool
  | .advance _ => true
  | action => action.supersedes document

/-- An action that does not matter for a waiting request only shifts its firing step. -/
theorem isFiringStep_insert {other : HostAction} (hother : other.concerns document = false)
    {waiting : List HostAction} {i : Nat} :
    IsFiringStep document due now (waiting ++ other :: rest)
        (if i < waiting.length then i else i + 1) ↔
      IsFiringStep document due now (waiting ++ rest) i := by
  have hsupersedes : other.supersedes document = false := by
    cases other with
    | advance => cases hother
    | _ => exact hother
  have helapse : ∀ now, other.elapse now = now := by
    cases other with
    | advance => cases hother
    | _ => exact fun _ => rfl
  have hreaches : ∀ now, other.reaches due now = false := by
    cases other with
    | advance => cases hother
    | _ => exact fun _ => rfl
  induction waiting generalizing now i with
  | nil =>
    have hshift : (if i < ([] : List HostAction).length then i else i + 1) = i + 1 :=
      if_neg (Nat.not_lt_zero i)
    rw [hshift, List.nil_append, List.nil_append, isFiringStep_succ, helapse]
    exact ⟨fun h => h.2.2, fun h => ⟨hreaches now, hsupersedes, h⟩⟩
  | cons first waiting ih =>
    cases i with
    | zero =>
      have hshift : (if 0 < (first :: waiting).length then 0 else 0 + 1) = 0 :=
        if_pos (Nat.succ_pos _)
      rw [hshift, List.cons_append, List.cons_append, isFiringStep_zero, isFiringStep_zero]
    | succ i =>
      have hshift : (if i + 1 < (first :: waiting).length then i + 1 else i + 1 + 1) =
          (if i < waiting.length then i else i + 1) + 1 := by
        rw [List.length_cons]
        split <;> split <;> omega
      rw [hshift, List.cons_append, List.cons_append, isFiringStep_succ, isFiringStep_succ]
      exact and_congr_right fun _ => and_congr_right fun _ => ih

/-- The firings of the timer with a number. -/
def firingsOf (id : Nat) (firings : List Firing) : List Firing :=
  firings.filter fun firing => firing.timer.id == id

namespace Host

variable {toolbox : Toolbox} {host : Host}

/-- The timers that fire, action by action. -/
def firingsAll (toolbox : Toolbox) (host : Host) : List HostAction → List (List Firing)
  | [] => []
  | action :: rest =>
    host.firings toolbox action :: (host.perform toolbox action).2.firingsAll toolbox rest

/-- The timers that fire in an action are those whose time the clock reaches. -/
theorem mem_timer_firings {timer : Timer} :
    timer ∈ (host.firings toolbox action).map (·.timer) ↔
      timer ∈ host.clock.live ∧ action.reaches timer.due host.clock.now = true := by
  cases action with
  | advance seconds =>
    rw [firings, Session.map_timer_firings, Clock.mem_dueBy]
    rfl
  | _ => simp [firings, HostAction.reaches]

/-- A timer that is not live does not fire. -/
theorem firingsOf_eq_nil {id : Nat} (h : ∀ timer ∈ host.clock.live, timer.id ≠ id) :
    firingsOf id (host.firings toolbox action) = [] := by
  refine List.filter_eq_nil_iff.mpr fun firing hfiring hid => ?_
  have hlive := (mem_timer_firings.mp (List.mem_map_of_mem hfiring)).1
  exact h _ hlive (beq_iff_eq.mp hid)

/-- A live timer fires once if the clock reaches its time. -/
theorem TimersAgree.firingsOf_eq (h : host.TimersAgree) (toolbox : Toolbox) {timer : Timer}
    (htimer : timer ∈ host.clock.live) (action : HostAction) :
    (firingsOf timer.id (host.firings toolbox action)).map (·.timer) =
      if action.reaches timer.due host.clock.now then [timer] else [] := by
  have hmap : (firingsOf timer.id (host.firings toolbox action)).map (·.timer) =
      ((host.firings toolbox action).map (·.timer)).filter fun other => other.id == timer.id := by
    rw [firingsOf, List.filter_map]
    rfl
  have hself : ∀ other ∈ (host.firings toolbox action).map (·.timer),
      (other.id == timer.id) = (other == timer) := by
    intro other hother
    rw [Bool.eq_iff_iff, beq_iff_eq, beq_iff_eq]
    constructor
    · exact h.eq_of_id_eq (mem_timer_firings.mp hother).1 htimer
    · exact congrArg Timer.id
  have hnodup : ((host.firings toolbox action).map (·.timer)).Nodup := by
    cases action with
    | advance seconds =>
      rw [firings, Session.map_timer_firings]
      exact List.Nodup.of_map _ (h.nodup_dueBy _)
    | _ => exact List.nodup_nil
  rw [hmap, List.filter_congr hself, List.filter_beq]
  by_cases hreaches : action.reaches timer.due host.clock.now = true
  · rw [if_pos hreaches, List.count_eq_one_of_mem hnodup (mem_timer_firings.mpr ⟨htimer, hreaches⟩)]
    rfl
  · rw [if_neg hreaches, List.count_eq_zero.mpr fun hmem => hreaches (mem_timer_firings.mp hmem).2]
    rfl

/-- A number that is in use, and whose timer does not stay, is free of live timers afterwards. -/
theorem TimersAgree.id_ne_of_perform (h : host.TimersAgree) {id : Nat}
    (hid : id < host.clock.started) (hnot : ∀ timer ∈ host.staying action, timer.id ≠ id) :
    ∀ timer ∈ (host.perform toolbox action).2.clock.live, timer.id ≠ id := by
  intro timer htimer
  rw [(h.perform toolbox action).2] at htimer
  rcases List.mem_append.mp htimer with hstays | hnew
  · exact hnot timer hstays
  · cases action with
    | schedule request notify =>
      rw [List.mem_singleton.mp hnew]
      exact Nat.ne_of_gt hid
    | _ => simp [startedBy] at hnew

/-- The number of a timer that is not live any more is not used again. -/
theorem firingsAll_of_not_live (h : host.TimersAgree) {id : Nat}
    (hid : id < host.clock.started) (hnot : ∀ timer ∈ host.clock.live, timer.id ≠ id)
    (actions : List HostAction) (i : Nat) :
    firingsOf id ((host.firingsAll toolbox actions)[i]?.getD []) = [] := by
  induction actions generalizing host i with
  | nil => simp [firingsAll, firingsOf]
  | cons action rest ih =>
    cases i with
    | zero => exact firingsOf_eq_nil hnot
    | succ i =>
      have hstarted := host.started_perform toolbox action
      refine ih (h.perform toolbox action).1 (by omega) (h.id_ne_of_perform hid ?_) i
      exact fun timer hstays => hnot timer (List.mem_filter.mp hstays).1

/-- A live timer fires in its firing step, once, and in no other step. -/
theorem TimersAgree.firingsAll_eq (h : host.TimersAgree) (toolbox : Toolbox) {timer : Timer}
    (htimer : timer ∈ host.clock.live) (actions : List HostAction) (i : Nat) :
    (IsFiringStep timer.request.document timer.due host.clock.now actions i →
      (firingsOf timer.id ((host.firingsAll toolbox actions)[i]?.getD [])).map (·.timer) =
        [timer]) ∧
    (¬IsFiringStep timer.request.document timer.due host.clock.now actions i →
      firingsOf timer.id ((host.firingsAll toolbox actions)[i]?.getD []) = []) := by
  induction actions generalizing host i with
  | nil =>
    refine ⟨fun hstep => absurd hstep (not_isFiringStep_nil i), fun _ => ?_⟩
    simp [firingsAll, firingsOf]
  | cons action rest ih =>
    obtain ⟨hagree, hlive⟩ := h.perform toolbox action
    cases i with
    | zero =>
      have hfirings := h.firingsOf_eq toolbox htimer action
      rw [isFiringStep_zero]
      refine ⟨fun hreaches => ?_, fun hreaches => ?_⟩
      · rw [if_pos hreaches] at hfirings
        exact hfirings
      · rw [if_neg hreaches] at hfirings
        exact List.map_eq_nil_iff.mp hfirings
    | succ i =>
      rw [isFiringStep_succ]
      by_cases hstays : action.reaches timer.due host.clock.now = false ∧
          action.supersedes timer.request.document = false
      · have hstill : timer ∈ (host.perform toolbox action).2.clock.live := by
          rw [hlive]
          refine List.mem_append_left _ (List.mem_filter.mpr ⟨htimer, ?_⟩)
          rw [hstays.1, hstays.2]
          rfl
        have hlater := ih hagree hstill i
        rw [now_perform] at hlater
        refine ⟨fun hstep => hlater.1 hstep.2.2, fun hstep => hlater.2 fun hlater => hstep ?_⟩
        exact ⟨hstays.1, hstays.2, hlater⟩
      · -- The timer has fired or has been cancelled, and its number is not used again.
        have hid := h.id_lt timer htimer
        have hstarted := host.started_perform toolbox action
        refine ⟨fun hstep => absurd ⟨hstep.1, hstep.2.1⟩ hstays, fun _ => ?_⟩
        refine firingsAll_of_not_live hagree (by omega) (h.id_ne_of_perform hid ?_) rest i
        intro other hother heq
        obtain ⟨hother, hkeeps⟩ := List.mem_filter.mp hother
        obtain rfl := h.eq_of_id_eq hother htimer heq
        rw [Bool.and_eq_true, Bool.not_eq_true', Bool.not_eq_true'] at hkeeps
        exact hstays ⟨hkeeps.2, hkeeps.1⟩

/-- The table lists exactly the live timers at every moment of a history. -/
theorem TimersAgree.performAll (h : host.TimersAgree) (toolbox : Toolbox)
    (actions : List HostAction) :
    (host.performAll toolbox actions).2.TimersAgree := by
  induction actions generalizing host with
  | nil => exact h
  | cons action rest ih => exact ih (h.perform toolbox action).1

/-- The firings of two parts of a history. -/
theorem firingsAll_append (toolbox : Toolbox) (host : Host) (before after : List HostAction) :
    host.firingsAll toolbox (before ++ after) =
      host.firingsAll toolbox before ++
        (host.performAll toolbox before).2.firingsAll toolbox after := by
  induction before generalizing host with
  | nil => rfl
  | cons action rest ih => exact congrArg (host.firings toolbox action :: ·) (ih _)

/-- The firings of a history are listed action by action. -/
theorem length_firingsAll (toolbox : Toolbox) (host : Host) (actions : List HostAction) :
    (host.firingsAll toolbox actions).length = actions.length := by
  induction actions generalizing host with
  | nil => rfl
  | cons action rest ih => exact congrArg (· + 1) (ih _)

/-- No history takes timers back. -/
theorem le_started_performAll (toolbox : Toolbox) (host : Host) (actions : List HostAction) :
    host.clock.started ≤ (host.performAll toolbox actions).2.clock.started := by
  induction actions generalizing host with
  | nil => exact Nat.le_refl _
  | cons action rest ih =>
    have hstarted := host.started_perform toolbox action
    have hlater := ih (host.perform toolbox action).2
    exact Nat.le_trans (by omega) hlater

/-- A timer does not fire before it is started. -/
theorem TimersAgree.firingsAll_of_le (h : host.TimersAgree) {actions : List HostAction} {id : Nat}
    (hid : (host.performAll toolbox actions).2.clock.started ≤ id) (i : Nat) :
    firingsOf id ((host.firingsAll toolbox actions)[i]?.getD []) = [] := by
  induction actions generalizing host i with
  | nil => simp [firingsAll, firingsOf]
  | cons action rest ih =>
    cases i with
    | zero =>
      have hle := host.le_started_performAll toolbox (action :: rest)
      refine firingsOf_eq_nil fun timer htimer heq => ?_
      have hlt := h.id_lt timer htimer
      omega
    | succ i => exact ih (h.perform toolbox action).1 hid i

/-- The timer of a request is live when the request has been scheduled. -/
theorem TimersAgree.newTimer_mem (h : host.TimersAgree) (toolbox : Toolbox) (request : Request)
    (notify : Bool) :
    host.newTimer request notify ∈
      (host.perform toolbox (.schedule request notify)).2.clock.live := by
  rw [(h.perform toolbox (.schedule request notify)).2]
  exact List.mem_append_right _ (List.mem_singleton_self _)

/-- The firings of the timer that is started when a request is scheduled after some actions and
before others, by the number of the action in the whole history. -/
def firingsOfCall (toolbox : Toolbox) (host : Host) (before : List HostAction)
    (request : Request) (notify : Bool) (after : List HostAction) (step : Nat) : List Firing :=
  firingsOf ((host.performAll toolbox before).2.newTimer request notify).id
    ((host.firingsAll toolbox (before ++ .schedule request notify :: after))[step]?.getD [])

/-- The timer of a request does not fire before or while the request is scheduled. -/
theorem TimersAgree.firingsOfCall_of_le (h : host.TimersAgree) {before after : List HostAction}
    {request : Request} {notify : Bool} {step : Nat} (hstep : step ≤ before.length) :
    host.firingsOfCall toolbox before request notify after step = [] := by
  unfold firingsOfCall
  rw [firingsAll_append]
  rcases Nat.lt_or_eq_of_le hstep with hlt | rfl
  · rw [List.getElem?_append_left (by rw [length_firingsAll]; exact hlt)]
    exact h.firingsAll_of_le (Nat.le_refl _) step
  · rw [List.getElem?_append_right (Nat.le_of_eq (host.length_firingsAll toolbox _)),
      length_firingsAll, Nat.sub_self]
    rfl

/-- After a request has been scheduled, its timer fires in the firing step, once, and in no other
step. -/
theorem TimersAgree.firingsOfCall_eq (h : host.TimersAgree) (toolbox : Toolbox)
    (before after : List HostAction) (request : Request) (notify : Bool) (i : Nat) :
    let called := (host.performAll toolbox before).2
    let timer := called.newTimer request notify
    (IsFiringStep request.document timer.due called.clock.now after i →
      (host.firingsOfCall toolbox before request notify after
        (before.length + 1 + i)).map (·.timer) = [timer]) ∧
    (¬IsFiringStep request.document timer.due called.clock.now after i →
      host.firingsOfCall toolbox before request notify after (before.length + 1 + i) = []) := by
  intro called timer
  have hcalled := h.performAll toolbox before
  have hindex : (host.firingsAll toolbox (before ++ .schedule request notify :: after))[
      before.length + 1 + i]? =
        ((called.perform toolbox (.schedule request notify)).2.firingsAll toolbox after)[i]? := by
    rw [firingsAll_append, List.getElem?_append_right (by rw [length_firingsAll]; omega),
      length_firingsAll, Nat.add_assoc, Nat.add_sub_cancel_left, Nat.add_comm 1 i]
    rfl
  have hfate := (hcalled.perform toolbox (.schedule request notify)).1.firingsAll_eq toolbox
    (hcalled.newTimer_mem toolbox request notify) after i
  rw [now_perform] at hfate
  unfold firingsOfCall
  rw [hindex]
  exact hfate

/-- Actions that do not matter for a request can be inserted anywhere after it. -/
theorem TimersAgree.firingsOfCall_insert (h : host.TimersAgree)
    {before waiting rest : List HostAction} {request : Request} {notify : Bool}
    {other : HostAction} (hother : other.concerns request.document = false) (i : Nat) :
    (host.firingsOfCall toolbox before request notify (waiting ++ other :: rest)
        (before.length + 1 + if i < waiting.length then i else i + 1)).map (·.timer) =
      (host.firingsOfCall toolbox before request notify (waiting ++ rest)
        (before.length + 1 + i)).map (·.timer) := by
  let shifted := if i < waiting.length then i else i + 1
  obtain ⟨hfires, hnot⟩ := h.firingsOfCall_eq toolbox before (waiting ++ rest) request notify i
  obtain ⟨hfires', hnot'⟩ :=
    h.firingsOfCall_eq toolbox before (waiting ++ other :: rest) request notify shifted
  rw [isFiringStep_insert hother] at hfires' hnot'
  by_cases hstep : IsFiringStep request.document
      ((host.performAll toolbox before).2.newTimer request notify).due
      (host.performAll toolbox before).2.clock.now (waiting ++ rest) i
  · exact (hfires' hstep).trans (hfires hstep).symm
  · exact congrArg (List.map _) ((hnot' hstep).trans (hnot hstep).symm)

/-- The table of a new session is empty. -/
theorem timersAgree_start (setup : Setup) (files : FileStore) :
    (start setup files).TimersAgree :=
  Clock.matches_new

/-- The setup after some actions. -/
theorem setup_performAll (toolbox : Toolbox) (host : Host) (actions : List HostAction) :
    (host.performAll toolbox actions).2.session.setup = host.session.setup.after actions := by
  induction actions generalizing host with
  | nil => rfl
  | cons action rest ih =>
    have hlater := ih (host.perform toolbox action).2
    rw [setup_perform] at hlater
    exact hlater

/-- The clock reading after some actions. -/
theorem now_performAll (toolbox : Toolbox) (host : Host) (actions : List HostAction) :
    (host.performAll toolbox actions).2.clock.now = clockAfter host.clock.now actions := by
  induction actions generalizing host with
  | nil => rfl
  | cons action rest ih =>
    have hlater := ih (host.perform toolbox action).2
    rw [now_perform] at hlater
    exact hlater

end Host

/-- An action in which the session may be asked for an analysis. -/
def HostAction.mayAnalyze : HostAction → Bool
  | .analyze _ => true
  | .advance _ => true
  | _ => false

namespace Host

/-- What holds at every moment of a host, its session and the timers. -/
structure TimersInOrder (toolbox : Toolbox) (host : Host) : Prop where
  /-- The table of the session lists exactly the live timers, at most one for each document. -/
  agree : host.TimersAgree
  /-- It does so in the middle of an advance of the clock too, when some of the due timers have
  fired. -/
  agree_firing : ∀ seconds fired rest,
    host.clock.dueBy (host.clock.now.add seconds) = fired ++ rest →
    (host.session.fireAll toolbox host.clock host.files fired).2.2.Matches
      (host.session.fireAll toolbox host.clock host.files fired).2.1.pending
  /-- When the clock is advanced, the request of each timer that fires is passed to the session,
  whether or not the host is told, and nothing else happens to it. -/
  fires : ∀ seconds, host.session.Fires toolbox host.clock host.files
    (host.firings toolbox (.advance seconds)) (host.perform toolbox (.advance seconds)).2.session
  /-- The host is told the results of the timers that fire for it, and no others. -/
  told : ∀ seconds, (host.perform toolbox (.advance seconds)).1 =
    (host.firings toolbox (.advance seconds)).filterMap (·.callback? host.files)
  /-- In other actions, a request for an analysis apart, nothing is analysed. -/
  quiet : ∀ action : HostAction, action.mayAnalyze = false →
    (host.perform toolbox action).2.session.runs = host.session.runs ∧
      ∀ entry ∈ (host.perform toolbox action).2.session.results, entry ∈ host.session.results

variable {toolbox : Toolbox} {host : Host}

/-- As long as the table lists the live timers, they are passed on as they must be. -/
theorem TimersAgree.timersInOrder (h : host.TimersAgree) (toolbox : Toolbox) :
    host.TimersInOrder toolbox := by
  refine ⟨h, fun seconds fired rest hdue => ?_, fun seconds => ?_, fun seconds => ?_, ?_⟩
  · have hnodup := List.Nodup.of_map _ (h.nodup_dueBy (host.clock.now.add seconds))
    rw [hdue] at hnodup
    refine (Session.matches_fireAll h toolbox host.files (fun timer htimer => ?_)
      (List.nodup_append.mp hnodup).1).1
    exact (Clock.mem_dueBy.mp (hdue.symm ▸ List.mem_append_left rest htimer)).1
  · exact (Session.fires_fireAll toolbox host.session host.clock host.files _).1
  · exact (Session.fires_fireAll toolbox host.session host.clock host.files _).2
  · intro action hquiet
    cases action with
    | analyze => cases hquiet
    | advance => cases hquiet
    | closeDocument => exact ⟨rfl, fun _ hentry => (List.mem_filter.mp hentry).1⟩
    | close | updateConfig => exact ⟨rfl, nofun⟩
    | _ => exact ⟨rfl, fun _ hentry => hentry⟩

end Host

/-- A cache can be asked for its catalog when its sources are paths. -/
theorem CatalogCache.isReadable_of_paths {cache : CatalogCache}
    (h : ∀ path ∈ cache.paths, FileStore.isValidPath path.toList = true) :
    cache.isReadable = true := by
  obtain ⟨source, constantsSource, _, _⟩ := cache
  simp only [paths, List.forall_mem_cons] at h
  cases source <;> cases constantsSource <;>
    simp_all [CatalogCache.isReadable, Catalog.validSources]

/-- With the same setup a session reads its catalog from the same paths. -/
theorem Session.paths_of_setup_eq {s t : Session} (h : s.setup = t.setup) :
    s.catalogs.paths = t.catalogs.paths := by
  have hsource : s.catalogs.source = t.catalogs.source := congrArg Setup.source h
  have hconstants : s.catalogs.constantsSource = t.catalogs.constantsSource :=
    congrArg Setup.constantsSource h
  rw [CatalogCache.paths, CatalogCache.paths, hsource, hconstants]

namespace Host

variable {toolbox : Toolbox} {host : Host} {action : HostAction}

/-- The catalog is read from the paths from which it was read before, or from those that the action
introduces. -/
theorem mem_paths_perform {path : String}
    (h : path ∈ (host.perform toolbox action).2.session.catalogs.paths) :
    path ∈ host.session.catalogs.paths ∨ path ∈ action.paths := by
  cases action with
  | analyze request =>
    have hsetup := setup_perform toolbox host (.analyze request)
    exact Or.inl (Session.paths_of_setup_eq hsetup ▸ h)
  | advance seconds =>
    have hsetup := setup_perform toolbox host (.advance seconds)
    exact Or.inl (Session.paths_of_setup_eq hsetup ▸ h)
  | reloadCatalog source constantsSource =>
    obtain ⟨hsource, hconstants⟩ :=
      (host.session.catalogs.redirect source constantsSource).get_sources host.files
    refine CatalogCache.mem_paths_redirect ?_
    rw [CatalogCache.paths, ← hsource, ← hconstants]
    exact h
  | _ => exact Or.inl h

/-- In the course of a history the catalog is read from the paths of the history. -/
theorem mem_paths_performAll {actions : List HostAction} {path : String}
    (h : path ∈ (host.performAll toolbox actions).2.session.catalogs.paths) :
    path ∈ (host.history toolbox actions).paths := by
  induction actions generalizing host with
  | nil => exact List.mem_append_left _ h
  | cons action rest ih =>
    rcases List.mem_append.mp (ih h) with hfirst | hlater
    · rcases mem_paths_perform hfirst with hold | hnew
      · exact List.mem_append_left _ hold
      · exact List.mem_append_right _ (List.mem_append_left _ hnew)
    · exact List.mem_append_right _ (List.mem_append_right _ hlater)

/-- An action succeeds as long as catalogs are read from paths. -/
theorem perform?_eq_some
    (hhost : ∀ path ∈ host.session.catalogs.paths, FileStore.isValidPath path.toList = true)
    (haction : ∀ path ∈ action.paths, FileStore.isValidPath path.toList = true) :
    host.perform? toolbox action = some (host.perform toolbox action) := by
  refine if_pos ?_
  rw [Option.all_eq_true]
  intro cache hcache
  refine CatalogCache.isReadable_of_paths ?_
  cases action with
  | analyze request =>
    obtain rfl := Option.some.inj hcache
    exact hhost
  | advance seconds =>
    change (if _ then none else some host.session.catalogs) = some cache at hcache
    split at hcache
    · contradiction
    · obtain rfl := Option.some.inj hcache
      exact hhost
  | reloadCatalog source constantsSource =>
    obtain rfl := Option.some.inj hcache
    intro path hpath
    exact (CatalogCache.mem_paths_redirect hpath).elim (hhost path) (haction path)
  | _ => contradiction

end Host

/-- A request that is scheduled fires once, when its time has come, or never. At every moment the
timers are in order. A request that is scheduled after the actions `before` gets a timer for the
present time plus the waiting time of the configuration that was set last. This timer fires in that
later action with which the clock first reaches its time, if no action replaces or forgets the
request before; and it fires in no other action. Actions that do not matter for the document can be
inserted without changing that. No action fails as long as catalogs are read from paths. -/
theorem schedule_fires_once (toolbox : Toolbox) (setup : Setup) (files : FileStore)
    (before after : List HostAction) (request : Request) (notify : Bool) :
    let host := Host.start setup files
    let called := (host.performAll toolbox before).2
    let now := clockAfter (.finite 0) before
    let due := now.add (setup.after before).config.debounceSeconds
    let timer : Timer := ⟨called.clock.started, due, request, notify⟩
    let firings := host.firingsOfCall toolbox before request notify
    let fires := IsFiringStep request.document due now after
    called.TimersInOrder toolbox ∧
    (∀ step ≤ before.length, firings after step = []) ∧
    (∀ i, fires i → (firings after (before.length + 1 + i)).map (·.timer) = [timer]) ∧
    (∀ i, ¬fires i → firings after (before.length + 1 + i) = []) ∧
    (∀ i j, fires i → fires j → i = j) ∧
    (∀ waiting rest other, after = waiting ++ rest → other.concerns request.document = false →
      ∀ i, (firings (waiting ++ other :: rest)
          (before.length + 1 + if i < waiting.length then i else i + 1)).map (·.timer) =
        (firings after (before.length + 1 + i)).map (·.timer)) ∧
    ((∀ path ∈ (host.history toolbox before).paths, FileStore.isValidPath path.toList = true) →
      ∀ action : HostAction, (∀ path ∈ action.paths, FileStore.isValidPath path.toList = true) →
        called.perform? toolbox action = some (called.perform toolbox action)) := by
  intro host called now due timer firings fires
  have hhost : host.TimersAgree := Host.timersAgree_start setup files
  have hnow : called.clock.now = now := host.now_performAll toolbox before
  have hsetup : called.session.setup = setup.after before := host.setup_performAll toolbox before
  have hconfig : called.session.config = (setup.after before).config :=
    congrArg Setup.config hsetup
  have htimer : called.newTimer request notify = timer := by
    rw [Host.newTimer, hnow, hconfig]
  have hcall := hhost.firingsOfCall_eq toolbox before after request notify
  refine ⟨(hhost.performAll toolbox before).timersInOrder toolbox,
    fun step hstep => hhost.firingsOfCall_of_le hstep, ?_, ?_, fun i j hi hj => hi.unique hj,
    ?_, ?_⟩
  · intro i hi
    have hfires := (hcall i).1
    rw [htimer, hnow] at hfires
    exact hfires hi
  · intro i hi
    have hnot := (hcall i).2
    rw [htimer, hnow] at hnot
    exact hnot hi
  · rintro waiting rest other rfl hother i
    exact hhost.firingsOfCall_insert hother i
  · intro hpaths action haction
    exact Host.perform?_eq_some (fun path hpath => hpaths path (Host.mem_paths_performAll hpath))
      haction

/-- After a request, another document is scheduled and time passes twice. -/
def quietSteps : List HostAction :=
  [.schedule ⟨"other.nxc", [], none⟩ false, .advance (.finite (1 / 4)), .advance (.finite (1 / 4))]

/-- The request of the sample fires half a second after it was scheduled, and not earlier. -/
theorem schedule_fires_once_sample :
    IsFiringStep "robot.nxc" (.finite (1 / 2)) (.finite 0) quietSteps 2 ∧
      ((Host.start {} {}).firingsOfCall headerTools [] sampleRequest true quietSteps 3).map
        (·.timer) = [⟨0, .finite (1 / 2), sampleRequest, true⟩] ∧
      (Host.start {} {}).firingsOfCall headerTools [] sampleRequest true quietSteps 2 = [] := by
  have hdue : (Double.finite 0).add (.finite (1 / 2)) = .finite (1 / 2) := by decide +kernel
  have hstep : IsFiringStep "robot.nxc" ((Double.finite 0).add (.finite (1 / 2))) (.finite 0)
      quietSteps 2 := by
    have hearly : Double.atMost ((Double.finite 0).add (.finite (1 / 2)))
        ((Double.finite 0).add (.finite (1 / 4))) = false := by decide +kernel
    have hlate : Double.atMost ((Double.finite 0).add (.finite (1 / 2)))
        (((Double.finite 0).add (.finite (1 / 4))).add (.finite (1 / 4))) = true := by
      decide +kernel
    refine isFiringStep_succ.mpr ⟨rfl, by decide, isFiringStep_succ.mpr ⟨hearly, rfl, ?_⟩⟩
    exact isFiringStep_zero.mpr hlate
  obtain ⟨_, _, hfires, hnot, hunique, _, _⟩ :=
    schedule_fires_once headerTools {} {} [] quietSteps sampleRequest true
  refine ⟨hdue ▸ hstep, ?_, ?_⟩
  · exact (hfires 2 hstep).trans
      (congrArg (fun due => [Timer.mk 0 due sampleRequest true]) hdue)
  · exact hnot 1 fun hearlier => absurd (hunique 1 2 hearlier hstep) nofun

end BrickLint
