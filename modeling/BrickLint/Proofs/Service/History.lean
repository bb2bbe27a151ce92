import BrickLint.Proofs.Service.Failure
import BrickLint.Proofs.SessionHistory

/-!
# Histories of calls

All calls of a service work on one session: they set its options, swap its catalog and fill it with
results. Here it is shown that the answer to a question does not depend on what was asked before. Of
all earlier calls, only the last one that set options and the last one that loaded a catalog matter.
The files stay as they are, but time passes between the calls, and the grammar pass may notice.
-/

namespace BrickLint.Service

open Text

namespace Call

/-- Whether a call sets options. -/
def setsOptions : Call → Bool
  | .configure _ => true
  | _ => false

/-- Whether a call loads a catalog. -/
def loadsCatalog : Call → Bool
  | .loadCatalog _ _ => true
  | _ => false

/-- Whether a call only asks for something. -/
def isQuestion (call : Call) : Bool :=
  !call.setsOptions && !call.loadsCatalog

/-- The request that a call makes to the session. -/
def request? (files : FileStore) : Call → Option Request
  | .analyzeSource source document version =>
    some ⟨document, source, if 0 ≤ version then some version else none⟩
  | .analyzeFile path root =>
    if !files.contains root.toList then none
    else
      (readSource? files root.toList path.toList).map fun text =>
        ⟨String.ofList (path.toList.map fun c => if c = '\\' then '/' else c), text, none⟩
  | _ => none

end Call

/-- A call and the time when it is made. -/
structure TimedCall where
  /-- The time. -/
  time : Double
  /-- The call. -/
  call : Call

/-- The session after some calls. -/
def performAll (toolbox : Toolbox) (s : Session) (files : FileStore) (calls : List TimedCall) :
    Session :=
  calls.foldl (fun s made => (perform (toolbox.toolsAt files made.time) s files made.call).2) s

variable {toolbox : Toolbox} {tools : Grammar.Tools} {files : FileStore} {call : Call}

/-- The configuration with some options set. -/
def Options.applyTo (options : Options) (config : Config) : Config :=
  { config with
    maxLineLength := options.maxLineLength
    checkStyle := options.checkStyle
    warnOnShadowing := options.warnOnShadowing
    reportUnusedVariables := options.reportUnusedVariables
    grammarCheck := options.grammarCheck
    defines := parseDefines options.defines.toList }

/-- The options that a call sets. -/
def Call.options? (files : FileStore) (call : Call) : Option Options :=
  match call with
  | .configure options => if call.fails files then none else some options
  | _ => none

/-- The files of signatures and of constants that a call points the session at. -/
def Call.sources? (files : FileStore) (call : Call) : Option (Option String × Option String) :=
  match call with
  | .loadCatalog apiPath constantsPath =>
    if call.fails files then none else some (path? apiPath, path? constantsPath)
  | _ => none

/-- The session with a catalog cache of other sources, which keeps nothing yet. -/
def pointAt (s : Session) (sources : Option String × Option String) : Session :=
  { s with
    catalogs :=
      { source := sources.1, constantsSource := sources.2, loads := s.catalogs.loads } }

/-- What a call can make of a session. -/
inductive Effect (tools : Grammar.Tools) (s : Session) (files : FileStore) :
    Call → Session → Prop
  /-- A call that fails changes nothing. -/
  | fail {call : Call} (h : call.fails files = true) : Effect tools s files call s
  /-- Options are set. -/
  | configure {options : Options} (h : (Call.configure options).fails files = false) :
    Effect tools s files (.configure options) (s.updateConfig (options.applyTo s.config))
  /-- A catalog is loaded. -/
  | loadCatalog {apiPath constantsPath : String}
    (h : (Call.loadCatalog apiPath constantsPath).fails files = false) :
    Effect tools s files (.loadCatalog apiPath constantsPath)
      ((pointAt s (path? apiPath, path? constantsPath)).currentCatalog files).2
  /-- A text is analysed. -/
  | analyze {call : Call} {request : Request} (hquestion : call.isQuestion = true)
    (h : call.request? files = some request) :
    Effect tools s files call (s.analyzeDocument tools files request).2
  /-- The catalog is looked at. -/
  | lookUp {call : Call} (hquestion : call.isQuestion = true) (h : call.request? files = none) :
    Effect tools s files call (s.currentCatalog files).2

/-- Every call has one of these effects. -/
theorem effect_perform (tools : Grammar.Tools) (s : Session) (files : FileStore) (call : Call) :
    Effect tools s files call (perform tools s files call).2 := by
  by_cases hfails : call.fails files = true
  · rw [(perform_of_fails tools s hfails).2]
    exact .fail hfails
  have hworks := eq_false_of_ne_true hfails
  cases call with
  | configure options =>
    rw [perform, Service.configure, if_neg (of_decide_eq_false hworks)]
    exact .configure hworks
  | loadCatalog apiPath constantsPath =>
    obtain ⟨hapi, hconstants⟩ := Bool.or_eq_false_iff.mp hworks
    rw [perform, Service.loadCatalog, if_neg (by rw [hapi]; decide),
      if_neg (by rw [hconstants]; decide)]
    exact .loadCatalog hworks
  | analyzeSource => exact .analyze rfl rfl
  | analyzeFile path root =>
    obtain ⟨hroot, hpath⟩ := Bool.or_eq_false_iff.mp hworks
    obtain ⟨text, htext⟩ := Option.isSome_iff_exists.mp (Option.isNone_eq_false_iff.mp hpath)
    rw [perform, analyzeFile, if_neg (by rw [hroot]; decide), htext]
    refine .analyze rfl ?_
    rw [Call.request?, if_neg (by rw [hroot]; decide), htext, Option.map_some]
  | suggestName | catalogSummary => exact .lookUp rfl rfl

/-- The files of signatures and of constants of a session. -/
def sources (s : Session) : Option String × Option String :=
  (s.catalogs.source, s.catalogs.constantsSource)

/-- Sessions with the same setup have the same sources. -/
theorem sources_of_setup_eq {s t : Session} (h : t.setup = s.setup) : sources t = sources s :=
  congrArg (fun setup : Setup => (setup.source, setup.constantsSource)) h

/-- A call that fails or asks a question sets no options. -/
theorem Call.options?_eq_none (h : call.fails files = true ∨ call.isQuestion = true) :
    call.options? files = none := by
  cases call with
  | configure => exact if_pos (h.resolve_right Bool.false_ne_true)
  | _ => rfl

/-- A call that fails or asks a question points at no sources. -/
theorem Call.sources?_eq_none (h : call.fails files = true ∨ call.isQuestion = true) :
    call.sources? files = none := by
  cases call with
  | loadCatalog => exact if_pos (h.resolve_right Bool.false_ne_true)
  | _ => rfl

variable {s t : Session}

/-- A call changes the configuration by the options that it sets. -/
theorem Effect.config_eq (heffect : Effect tools s files call t) :
    t.config = (call.options? files).elim s.config fun options => options.applyTo s.config := by
  cases heffect with
  | fail h => rw [Call.options?_eq_none (.inl h), Option.elim_none]
  | configure h =>
    rw [Call.options?, if_neg (by rw [h]; decide), Option.elim_some, Session.updateConfig]
  | loadCatalog => exact congrArg Setup.config (Session.setup_currentCatalog _ files)
  | analyze hquestion =>
    rw [Call.options?_eq_none (.inr hquestion), Option.elim_none]
    exact congrArg Setup.config (s.setup_analyzeDocument tools files _)
  | lookUp hquestion =>
    rw [Call.options?_eq_none (.inr hquestion), Option.elim_none]
    exact congrArg Setup.config (s.setup_currentCatalog files)

/-- A call changes the catalog sources to those that it points at. -/
theorem Effect.sources_eq (heffect : Effect tools s files call t) :
    sources t = (call.sources? files).getD (sources s) := by
  cases heffect with
  | fail h => rw [Call.sources?_eq_none (.inl h), Option.getD_none]
  | configure => rfl
  | loadCatalog h =>
    rw [Call.sources?, if_neg (by rw [h]; decide), Option.getD_some,
      sources_of_setup_eq (Session.setup_currentCatalog _ files), sources, pointAt]
  | analyze hquestion =>
    rw [Call.sources?_eq_none (.inr hquestion), Option.getD_none]
    exact sources_of_setup_eq (s.setup_analyzeDocument tools files _)
  | lookUp hquestion =>
    rw [Call.sources?_eq_none (.inr hquestion), Option.getD_none]
    exact sources_of_setup_eq (s.setup_currentCatalog files)

/-- The paths of catalogs that a call points at. -/
def Call.paths (call : Call) : List String :=
  match call with
  | .loadCatalog apiPath constantsPath =>
    (path? apiPath).getD Catalog.defaultPath :: (path? constantsPath).toList
  | _ => []

section Overwriting

variable {σ α β γ : Type}

/-- When each step writes a value or keeps it, a run leaves the value that was written last. -/
theorem foldl_overwrite {step : σ → α → σ} {write? : α → Option β} (view : σ → γ)
    (write : β → γ → γ) (hwrite : ∀ b b' v, write b (write b' v) = write b v)
    (hstep : ∀ s a, view (step s a) = (write? a).elim (view s) fun b => write b (view s))
    (steps : List α) (s : σ) :
    view (steps.foldl step s) =
      (steps.filterMap write?).getLast?.elim (view s) fun b => write b (view s) := by
  induction steps generalizing s with
  | nil => rfl
  | cons a rest ih =>
    rw [List.foldl_cons, ih, hstep]
    cases ha : write? a with
    | none => rw [List.filterMap_cons_none ha, Option.elim_none]
    | some b =>
      rw [List.filterMap_cons_some ha, List.getLast?_cons]
      cases (rest.filterMap write?).getLast? with
      | none => rfl
      | some b' => exact hwrite b' b (view s)

end Overwriting

/-- The sources after some calls are those that were pointed at last. -/
theorem sources_performAll (toolbox : Toolbox) (s : Session) (files : FileStore)
    (calls : List TimedCall) :
    sources (performAll toolbox s files calls) =
      ((calls.map (·.call)).filterMap (Call.sources? files)).getLast?.elim (sources s) id := by
  rw [List.filterMap_map]
  refine foldl_overwrite sources (fun new _ => new) (fun _ _ _ => rfl) (fun s made => ?_) calls s
  rw [(effect_perform _ s files made.call).sources_eq, Function.comp_apply]
  cases made.call.sources? files <;> rfl

/-- A program that calls a function. -/
def sampleProgram : List Char :=
  "task main() { Off(); }".toList

end BrickLint.Service
