import Gpgme.MonitorVeto

/-! The reuse of an engine object of `engine-gpgsm.c` by `_gpgme_op_reset` of `op-support.c`, when
descriptors can be passed to the server.
-/

namespace Gpgme

open CString

/-- The monitor of the status lines. -/
abbrev Monitor := List (Str × Str) → GpgError

/-- The engine object: whether it has a connection (`assuan_ctx` is not NULL), its handlers with
the attic, and what has been set.
-/
structure GpgsmObject where
  live : Bool := true
  assuan : AssuanEngine := {}
  lcCtypeSet : Bool := false
  lcMessagesSet : Bool := false
  requestOrigin : Str := []

/-- The settings of the context when an operation is started. -/
structure ContextSettings where
  statusCb : Option Monitor := none
  fullStatus : Bool := false
  lcCtype : Option Str := none
  lcMessages : Option Str := none
  requestOrigin : Option Str := none
  /-- The sub-protocol is not the default one. -/
  subProtocol : Bool := false

/-- The monitor that the context asks for. -/
def ContextSettings.monitor (settings : ContextSettings) : Option Monitor :=
  if settings.fullStatus then settings.statusCb else none

/-- What the commands of a reset are answered: `RESET`, the start of a new engine, and the locales.
Without a connection a locale cannot be sent.
-/
structure ResetAnswers where
  reset : GpgError := 0
  newEngine : GpgError := 0
  lcCtype : GpgError := 0
  lcMessages : GpgError := 0
  noConnection : GpgError := gpgError ErrCode.invValue

-----------------------------------------------------------------------------------------
-- The engine
-----------------------------------------------------------------------------------------

namespace GpgsmObject

/-- `gpgsm_reset`. -/
def reset (object : GpgsmObject) (answers : ResetAnswers) : GpgError :=
  if object.live then answers.reset else 0

/-- `gpgsm_set_locale` for a category: the error, and whether a value has been set. -/
def setLocale (live isSet : Bool) (value : Option Str) (answer noConnection : GpgError)
    : GpgError × Bool :=
  match value with
  | none => if isSet then (gpgError ErrCode.invValue, isSet) else (0, isSet)
  | some _ => (if live then answer else noConnection, true)

def setLcCtype (object : GpgsmObject) (settings : ContextSettings) (answers : ResetAnswers)
    : GpgError × GpgsmObject :=
  let (err, lcCtypeSet) :=
    setLocale object.live object.lcCtypeSet settings.lcCtype answers.lcCtype answers.noConnection
  (err, { object with lcCtypeSet })

def setLcMessages (object : GpgsmObject) (settings : ContextSettings) (answers : ResetAnswers)
    : GpgError × GpgsmObject :=
  let (err, lcMessagesSet) :=
    setLocale object.live object.lcMessagesSet settings.lcMessages answers.lcMessages
      answers.noConnection
  (err, { object with lcMessagesSet })

/-- `gpgsm_set_engine_flags`. An origin that is too long is replaced by one that forces an
error.
-/
def setEngineFlags (object : GpgsmObject) (settings : ContextSettings) : GpgsmObject :=
  match settings.requestOrigin with
  | none => { object with requestOrigin := [] }
  | some origin =>
      { object with requestOrigin := if 10 < origin.length + 1 then str "xxx" else origin }

/-- `gpgsm_set_status_cb`. -/
def setStatusCb (object : GpgsmObject) (monitor : Monitor) : GpgsmObject :=
  { object with assuan := { object.assuan with monCb := some monitor } }

end GpgsmObject

-----------------------------------------------------------------------------------------
-- The reset
-----------------------------------------------------------------------------------------

/-- The part of `_gpgme_op_reset` for an engine that is not reused as it is. The engine has no
function to set the mode of the pinentry; an error releases it.
-/
def GpgsmObject.setUp (object : GpgsmObject) (settings : ContextSettings) (answers : ResetAnswers)
    : GpgError × Option GpgsmObject :=
  let (err, object) := object.setLcCtype settings answers
  let (err, object) := if err = 0 then object.setLcMessages settings answers else (err, object)
  let err := if gpgErrCode err = ErrCode.notImplemented then 0 else err
  let object := object.setEngineFlags settings
  if err ≠ 0 then (err, none)
  else
    match settings.monitor with
    | none => (0, some object)
    | some monitor => (0, some (object.setStatusCb monitor))

/-- The end of `_gpgme_op_reset`. The engine has no function to set the protocol. -/
def setSubProtocol (settings : ContextSettings) (result : GpgError × Option GpgsmObject)
    : GpgError × Option GpgsmObject :=
  if result.1 ≠ 0 then result
  else if settings.subProtocol then (gpgError ErrCode.notImplemented, result.2)
  else result

/-- The engine object that a reset leaves in the context: none is left after an answer that says
that there is no reset.
-/
def keptObject (noReset : Bool) (answers : ResetAnswers) (engine : Option GpgsmObject)
    : Option GpgsmObject :=
  if noReset then engine
  else engine.filter (fun object => gpgErrCode (object.reset answers) != ErrCode.notImplemented)

/-- `_gpgme_op_reset`; `noReset` is the flag that suppresses the reset of an engine. Other errors
of the reset are not looked at.
-/
def opReset (noReset : Bool) (settings : ContextSettings) (answers : ResetAnswers)
    (engine : Option GpgsmObject)
    : GpgError × Option GpgsmObject :=
  match keptObject noReset answers engine with
  | some object =>
      setSubProtocol settings
        (if noReset then (0, some object) else object.setUp settings answers)
  | none =>
      if answers.newEngine ≠ 0 then (answers.newEngine, none)
      else setSubProtocol settings (GpgsmObject.setUp {} settings answers)

-----------------------------------------------------------------------------------------
-- Operations
-----------------------------------------------------------------------------------------

/-- An operation: its handlers, an error with which its start fails, and the lines that are there
in each call of `status_handler`. It may be interrupted in the end, when it is canceled or another
of its callbacks fails.
-/
structure SessionOperation where
  noReset : Bool := false
  colonFnc : Option (List (Option Str) → GpgError) := none
  colonWrites : List (Option Str) → List UInt8 := fun _ => []
  statusFnc : Option (List StatusCall → GpgError) := none
  startError : GpgError := 0
  calls : List (List ServerLine) := []
  interrupted : Bool := false

/-- `gpgsm_set_status_handler`, and `gpgsm_set_colon_line_handler` by an operation that has a
handler for colon lines. The status descriptor is opened again; the records of the calls begin
anew.
-/
def AssuanEngine.install (engine : AssuanEngine) (op : SessionOperation) : AssuanEngine :=
  let engine :=
    { engine with
      statusFnc := op.statusFnc
      inlineData := none
      statusClosed := false
      colonCalls := []
      statusCalls := []
      monCalls := []
      dataLines := [] }
  match op.colonFnc with
  | none => engine
  | some fnc =>
      { engine with colonFnc := some fnc, colonWrites := op.colonWrites, colonAny := false }

/-- Run an operation. Unless it gets to its `OK` line without an error it is canceled, and
`gpgsm_cancel` closes the connection. Without a connection nothing is started. The result says
whether the operation has been canceled.
-/
def GpgsmObject.perform (unsignedCode : Bool) (object : GpgsmObject) (op : SessionOperation)
    : Bool × GpgsmObject :=
  let assuan := object.assuan.install op
  if op.startError ≠ 0 ∨ ¬ object.live then (false, { object with assuan })
  else
    let (err, assuan) := assuan.serve unsignedCode op.calls
    if err = 0 ∧ assuan.statusClosed ∧ ¬ op.interrupted then (false, { object with assuan })
    else (true, { object with assuan, live := false })

-----------------------------------------------------------------------------------------
-- Contexts
-----------------------------------------------------------------------------------------

/-- What has been done with an engine object: it has got a monitor or not, or an operation has
been performed with it.
-/
inductive EngineUse where
  | prepared (monitor : Option Monitor)
  | performed (colon canceled : Bool)

/-- A context with its engine, and what has been done with that since it was created. -/
structure GpgsmSession where
  engine : Option GpgsmObject := none
  uses : List EngineUse := []

/-- An operation that is started on the context. -/
structure SessionStep where
  settings : ContextSettings := {}
  answers : ResetAnswers := {}
  operation : SessionOperation := {}

namespace GpgsmSession

/-- The reset in front of an operation. -/
def reset (session : GpgsmSession) (step : SessionStep) : GpgError × GpgsmSession :=
  let { settings, answers, operation } := step
  let (err, engine) := opReset operation.noReset settings answers session.engine
  let kept := keptObject operation.noReset answers session.engine
  let before := if kept.isSome then session.uses else []
  let monitor := if kept.isSome ∧ operation.noReset then none else settings.monitor
  (err, { engine, uses := if engine.isSome then before ++ [.prepared monitor] else [] })

/-- The operation itself. -/
def perform (unsignedCode : Bool) (session : GpgsmSession) (op : SessionOperation)
    : GpgsmSession :=
  match session.engine with
  | none => session
  | some object =>
      let (canceled, object) := object.perform unsignedCode op
      { engine := some object
        uses := session.uses ++ [.performed op.colonFnc.isSome canceled] }

end GpgsmSession

/-- Nothing is carried over into an operation: there is a connection, the monitor is the one that
the context asks for, there is no colon handler, and there is no partial line.
-/
structure GpgsmObject.CarriesNothing (object : GpgsmObject) (settings : ContextSettings)
    : Prop where
  live : object.live = true
  monitor : object.assuan.monCb = settings.monitor
  colonFnc : object.assuan.colonFnc = none
  attic : object.assuan.attic = []

/-- Whenever a reset returns without an error, nothing is carried over. -/
def ResetsCarryNothing (unsignedCode : Bool) : GpgsmSession → List SessionStep → Prop
  | _, [] => True
  | session, step :: later =>
      let (err, ready) := session.reset step
      (err = 0
        → ∃ object, ready.engine = some object ∧ object.CarriesNothing step.settings)
      ∧ ResetsCarryNothing unsignedCode
          (if err = 0 then ready.perform unsignedCode step.operation else ready) later

/-- The last monitor that an engine object has got. -/
def lastMonitor (uses : List EngineUse) : Option Monitor :=
  uses.foldl
    (fun last use =>
      match use with
      | .prepared (some monitor) => some monitor
      | _ => last)
    none

/-- What has been done with an engine object does not matter for the next operation: no operation
was canceled, none had a colon handler, and the monitor is replaced or is still the right one.
-/
structure UsesForgotten (uses : List EngineUse) (noReset : Bool) (settings : ContextSettings)
    : Prop where
  finished : ∀ colon canceled, .performed colon canceled ∈ uses → canceled = false
  noColon : ∀ colon canceled, .performed colon canceled ∈ uses → colon = false
  monitor
    : if noReset then lastMonitor uses = settings.monitor
      else settings.monitor = none → lastMonitor uses = none

/-- Whenever a reset that keeps the engine object returns without an error, what has been done with
the object does not matter.
-/
def HistoryForgotten (unsignedCode : Bool) : GpgsmSession → List SessionStep → Prop
  | _, [] => True
  | session, step :: later =>
      let (err, ready) := session.reset step
      (err = 0
        → (keptObject step.operation.noReset step.answers session.engine).isSome
        → UsesForgotten session.uses step.operation.noReset step.settings)
      ∧ HistoryForgotten unsignedCode
          (if err = 0 then ready.perform unsignedCode step.operation else ready) later

-----------------------------------------------------------------------------------------
-- Lines leave the handlers alone
-----------------------------------------------------------------------------------------

/-- The handlers stay what they are, and the attic is used only for a colon handler. -/
structure AssuanEngine.SameHandlers (before after : AssuanEngine) : Prop where
  colonFnc : after.colonFnc = before.colonFnc
  monCb : after.monCb = before.monCb
  attic : before.colonFnc = none → after.attic = before.attic

namespace AssuanEngine

theorem handleData_colonFnc (engine : AssuanEngine) (payload : Str)
    : (engine.handleData payload).2.colonFnc = engine.colonFnc
      ∧ (engine.colonFnc = none → (engine.handleData payload).2.attic = engine.attic) := by
  cases installed : engine.colonFnc with
  | none =>
      unfold handleData
      rw [installed]
      cases engine.inlineData <;> exact ⟨installed, fun _ => rfl⟩
  | some fnc =>
      rw [handleData_installed installed]
      refine ⟨(putBytes_colon _ _).1.trans installed, fun absent => ?_⟩
      cases absent

theorem callMonitor_monCb (engine : AssuanEngine) (keyword args : Str)
    : (engine.callMonitor keyword args).2.monCb = engine.monCb := by
  unfold callMonitor
  split
  · rfl
  · split <;> rfl

theorem handleStatus_monCb (unsignedCode : Bool) (engine : AssuanEngine) (text : Str)
    : (engine.handleStatus unsignedCode text).2.monCb = engine.monCb := by
  have monitored := engine.callMonitor_monCb (word text) (skipWord text).tail
  unfold handleStatus
  dsimp only
  split
  · exact monitored
  · split
    · exact (callStatus_sameMonitor _ _ _).monCb.trans monitored
    · split
      · exact (callStatus_sameMonitor _ _ _).monCb.trans monitored
      · exact monitored

theorem handleLine_sameHandlers (unsignedCode : Bool) (engine : AssuanEngine) (line : ServerLine)
    : engine.SameHandlers (engine.handleLine unsignedCode line).2 := by
  have monCb : (engine.handleLine unsignedCode line).2.monCb = engine.monCb := by
    rcases engine.handleLine_monitor unsignedCode line with same | ⟨text, handled⟩
    · exact same.monCb
    · rw [handled]
      exact handleStatus_monCb unsignedCode engine text
  rcases engine.handleLine_cases unsignedCode line with same | ⟨payload, data⟩ | ⟨next, same, ended⟩
  · exact ⟨same.colonFnc, monCb, fun _ => same.attic⟩
  · obtain ⟨colonFnc, attic⟩ := engine.handleData_colonFnc payload
    rw [data] at monCb ⊢
    exact ⟨colonFnc, monCb, attic⟩
  · rw [ended] at monCb ⊢
    have called := next.callColon_colon none
    exact ⟨called.1.trans same.colonFnc, monCb, fun _ => called.2.2.trans same.attic⟩

theorem serve_sameHandlers (unsignedCode : Bool) {engine : AssuanEngine}
    (running : engine.statusClosed = false) (calls : List (List ServerLine))
    : engine.SameHandlers (engine.serve unsignedCode calls).2 := by
  refine serve_induct (P := fun _ now => engine.SameHandlers now) running
    ⟨rfl, rfl, fun _ => rfl⟩ ?_ calls
  intro now line _ same
  have kept := now.handleLine_sameHandlers unsignedCode line
  exact ⟨kept.colonFnc.trans same.colonFnc, kept.monCb.trans same.monCb,
    fun absent => (kept.attic (same.colonFnc.trans absent)).trans (same.attic absent)⟩

end AssuanEngine

-----------------------------------------------------------------------------------------
-- The engine follows what has been done with it
-----------------------------------------------------------------------------------------

/-- An engine object shows what has been done with it. -/
structure ObjectTracks (object : GpgsmObject) (uses : List EngineUse) : Prop where
  live
    : object.live = true
      ↔ ∀ colon canceled, .performed colon canceled ∈ uses → canceled = false
  colonFnc
    : object.assuan.colonFnc = none
      ↔ ∀ colon canceled, .performed colon canceled ∈ uses → colon = false
  monitor : object.assuan.monCb = lastMonitor uses
  attic : object.assuan.colonFnc = none → object.assuan.attic = []

theorem lastMonitor_prepared (uses : List EngineUse) (monitor : Option Monitor)
    : lastMonitor (uses ++ [.prepared monitor]) = monitor.or (lastMonitor uses) := by
  unfold lastMonitor
  rw [List.foldl_append]
  cases monitor <;> rfl

theorem lastMonitor_performed (uses : List EngineUse) (colon canceled : Bool)
    : lastMonitor (uses ++ [.performed colon canceled]) = lastMonitor uses := by
  unfold lastMonitor
  rw [List.foldl_append]
  rfl

theorem GpgsmObject.setUp_cases (object : GpgsmObject) (settings : ContextSettings)
    (answers : ResetAnswers)
    : (∃ err, err ≠ 0 ∧ object.setUp settings answers = (err, none))
      ∨ ∃ next : GpgsmObject,
          object.setUp settings answers = (0, some next)
          ∧ next.live = object.live
          ∧ next.assuan
            = { object.assuan with monCb := settings.monitor.or object.assuan.monCb } := by
  have ctype : (object.setLcCtype settings answers).2.live = object.live
      ∧ (object.setLcCtype settings answers).2.assuan = object.assuan :=
    ⟨rfl, rfl⟩
  have messages (object : GpgsmObject)
      : (object.setLcMessages settings answers).2.live = object.live
        ∧ (object.setLcMessages settings answers).2.assuan = object.assuan :=
    ⟨rfl, rfl⟩
  have flags (object : GpgsmObject)
      : (object.setEngineFlags settings).live = object.live
        ∧ (object.setEngineFlags settings).assuan = object.assuan := by
    unfold setEngineFlags
    split <;> exact ⟨rfl, rfl⟩
  have located : (if (object.setLcCtype settings answers).1 = 0 then
          (object.setLcCtype settings answers).2.setLcMessages settings answers
        else
          object.setLcCtype settings answers).2.live = object.live
      ∧ (if (object.setLcCtype settings answers).1 = 0 then
          (object.setLcCtype settings answers).2.setLcMessages settings answers
        else
          object.setLcCtype settings answers).2.assuan = object.assuan := by
    split
    · exact ⟨(messages _).1.trans ctype.1, (messages _).2.trans ctype.2⟩
    · exact ctype
  unfold setUp
  dsimp only
  generalize (if (object.setLcCtype settings answers).1 = 0 then
      (object.setLcCtype settings answers).2.setLcMessages settings answers
    else
      object.setLcCtype settings answers) = result at located ⊢
  obtain ⟨live, assuan⟩ := flags result.2
  generalize (if gpgErrCode result.1 = ErrCode.notImplemented then 0 else result.1) = err
  by_cases failed : err ≠ 0
  · rw [if_pos failed]
    exact Or.inl ⟨err, failed, rfl⟩
  · rw [if_neg failed]
    cases settings.monitor with
    | none =>
        exact Or.inr ⟨_, rfl, live.trans located.1, by rw [assuan, located.2, Option.none_or]⟩
    | some monitor =>
        refine Or.inr ⟨_, rfl, live.trans located.1, ?_⟩
        unfold setStatusCb
        rw [assuan, located.2, Option.some_or]

theorem ObjectTracks.prepared {object next : GpgsmObject} {uses : List EngineUse}
    {monitor : Option Monitor} (tracks : ObjectTracks object uses) (live : next.live = object.live)
    (assuan : next.assuan = { object.assuan with monCb := monitor.or object.assuan.monCb })
    : ObjectTracks next (uses ++ [.prepared monitor]) := by
  refine ⟨?_, ?_, ?_, ?_⟩
  · rw [live, tracks.live]
    simp
  · rw [assuan]
    change object.assuan.colonFnc = none ↔ _
    rw [tracks.colonFnc]
    simp
  · rw [assuan, lastMonitor_prepared, tracks.monitor]
  · rw [assuan]
    exact tracks.attic

theorem objectTracks_new : ObjectTracks {} [] :=
  ⟨by simp, by simp, rfl, fun _ => rfl⟩

theorem AssuanEngine.install_cases (engine : AssuanEngine) (op : SessionOperation)
    : (engine.install op).colonFnc = op.colonFnc.or engine.colonFnc
      ∧ (engine.install op).monCb = engine.monCb
      ∧ (engine.install op).attic = engine.attic
      ∧ (engine.install op).statusClosed = false := by
  unfold install
  cases op.colonFnc <;> exact ⟨rfl, rfl, rfl, rfl⟩

theorem ObjectTracks.perform {object : GpgsmObject} {uses : List EngineUse}
    (tracks : ObjectTracks object uses) (unsignedCode : Bool) (op : SessionOperation)
    : ObjectTracks (object.perform unsignedCode op).2
        (uses ++ [.performed op.colonFnc.isSome (object.perform unsignedCode op).1]) := by
  obtain ⟨colonFnc, monCb, attic, running⟩ := object.assuan.install_cases op
  have served := AssuanEngine.serve_sameHandlers unsignedCode running op.calls
  -- The engine behind the operation has the handlers of the one in front of it or new ones.
  have handlers : (object.perform unsignedCode op).2.assuan.colonFnc
        = op.colonFnc.or object.assuan.colonFnc
      ∧ (object.perform unsignedCode op).2.assuan.monCb = object.assuan.monCb
      ∧ (op.colonFnc.or object.assuan.colonFnc = none
        → (object.perform unsignedCode op).2.assuan.attic = object.assuan.attic) := by
    unfold GpgsmObject.perform
    dsimp only
    split
    · exact ⟨colonFnc, monCb, fun _ => attic⟩
    · split
      · exact ⟨served.colonFnc.trans colonFnc, served.monCb.trans monCb,
          fun absent => (served.attic (colonFnc.trans absent)).trans attic⟩
      · exact ⟨served.colonFnc.trans colonFnc, served.monCb.trans monCb,
          fun absent => (served.attic (colonFnc.trans absent)).trans attic⟩
  have live : (object.perform unsignedCode op).2.live
      = (object.live && !(object.perform unsignedCode op).1) := by
    unfold GpgsmObject.perform
    dsimp only
    split
    · simp
    · split <;> simp
  obtain ⟨colonAfter, monAfter, atticAfter⟩ := handlers
  have absent : (object.perform unsignedCode op).2.assuan.colonFnc = none
      ↔ op.colonFnc = none ∧ object.assuan.colonFnc = none := by
    rw [colonAfter, Option.or_eq_none_iff]
  refine ⟨?_, ?_, ?_, ?_⟩
  · rw [live, Bool.and_eq_true, tracks.live]
    simp only [List.mem_append, List.mem_singleton, EngineUse.performed.injEq, or_imp,
      forall_and, Bool.not_eq_true']
    simp
  · rw [absent, tracks.colonFnc]
    simp only [List.mem_append, List.mem_singleton, EngineUse.performed.injEq, or_imp,
      forall_and]
    simp [and_comm]
  · rw [monAfter, lastMonitor_performed, tracks.monitor]
  · intro none'
    have before := absent.mp none'
    rw [atticAfter (Option.or_eq_none_iff.mpr before)]
    exact tracks.attic before.2

-----------------------------------------------------------------------------------------
-- What a reset carries over
-----------------------------------------------------------------------------------------

theorem setSubProtocol_engine (settings : ContextSettings)
    (result : GpgError × Option GpgsmObject)
    : (setSubProtocol settings result).2 = result.2 := by
  unfold setSubProtocol
  split
  · rfl
  · split <;> rfl

theorem setSubProtocol_ok {settings : ContextSettings} {result : GpgError × Option GpgsmObject}
    (fine : (setSubProtocol settings result).1 = 0)
    : result.1 = 0 := by
  unfold setSubProtocol at fine
  split at fine
  · exact fine
  · next fine' => exact not_not.mp fine'

theorem keptObject_eq_some {noReset : Bool} {answers : ResetAnswers}
    {engine : Option GpgsmObject} {object : GpgsmObject}
    (kept : keptObject noReset answers engine = some object)
    : engine = some object := by
  unfold keptObject at kept
  split at kept
  · exact kept
  · exact Option.eq_some_of_filter_eq_some kept

/-- The engine of a session shows what has been done with it. -/
def GpgsmSession.Tracked (session : GpgsmSession) : Prop :=
  ∀ object, session.engine = some object → ObjectTracks object session.uses

theorem carriesNothing_new {next : GpgsmObject} {settings : ContextSettings}
    (live : next.live = true)
    (assuan : next.assuan = { ({} : AssuanEngine) with monCb := settings.monitor.or none })
    : next.CarriesNothing settings := by
  refine ⟨live, ?_, ?_, ?_⟩
  · rw [assuan, Option.or_none]
  · rw [assuan]
  · rw [assuan]

theorem ObjectTracks.carriesNothing_iff {object next : GpgsmObject} {uses : List EngineUse}
    {settings : ContextSettings} (tracks : ObjectTracks object uses) (live : next.live = object.live)
    (assuan : next.assuan = { object.assuan with monCb := settings.monitor.or object.assuan.monCb })
    : next.CarriesNothing settings ↔ UsesForgotten uses false settings := by
  have colonFnc : next.assuan.colonFnc = object.assuan.colonFnc := by rw [assuan]
  have attic : next.assuan.attic = object.assuan.attic := by rw [assuan]
  have monitor : next.assuan.monCb = settings.monitor
      ↔ (settings.monitor = none → lastMonitor uses = none) := by
    rw [assuan, ← tracks.monitor]
    cases settings.monitor <;> simp
  constructor
  · rintro ⟨connected, monitored, noColon, _⟩
    refine ⟨tracks.live.mp (live ▸ connected), tracks.colonFnc.mp (colonFnc ▸ noColon), ?_⟩
    exact monitor.mp monitored
  · rintro ⟨finished, noColon, monitored⟩
    have absent := tracks.colonFnc.mpr noColon
    refine ⟨live.trans (tracks.live.mpr finished), monitor.mpr monitored,
      colonFnc.trans absent, attic.trans (tracks.attic absent)⟩

theorem ObjectTracks.carriesNothing_iff_noReset {object : GpgsmObject} {uses : List EngineUse}
    {settings : ContextSettings} (tracks : ObjectTracks object uses)
    : object.CarriesNothing settings ↔ UsesForgotten uses true settings := by
  constructor
  · rintro ⟨connected, monitored, noColon, _⟩
    exact ⟨tracks.live.mp connected, tracks.colonFnc.mp noColon, tracks.monitor ▸ monitored⟩
  · rintro ⟨finished, noColon, monitored⟩
    have absent := tracks.colonFnc.mpr noColon
    exact ⟨tracks.live.mpr finished, tracks.monitor.trans monitored, absent, tracks.attic absent⟩

theorem GpgsmSession.Tracked.reset {session : GpgsmSession} (tracked : session.Tracked)
    (step : SessionStep)
    : (session.reset step).2.Tracked
      ∧ ((session.reset step).1 = 0
        → ∃ object,
            (session.reset step).2.engine = some object
            ∧ (object.CarriesNothing step.settings
              ↔ ((keptObject step.operation.noReset step.answers session.engine).isSome
                → UsesForgotten session.uses step.operation.noReset step.settings))) := by
  obtain ⟨settings, answers, operation⟩ := step
  unfold GpgsmSession.reset opReset Tracked
  dsimp only
  cases kept : keptObject operation.noReset answers session.engine with
  | some object =>
      have tracks := tracked object (keptObject_eq_some kept)
      dsimp only
      rw [setSubProtocol_engine]
      cases noReset : operation.noReset with
      | true =>
          simp only [if_true, Option.isSome_some, and_self, forall_const]
          refine ⟨fun object' same => ?_, fun _ => ⟨object, rfl, tracks.carriesNothing_iff_noReset⟩⟩
          cases same
          exact tracks.prepared rfl rfl
      | false =>
          simp only [Bool.false_eq_true, if_false, Option.isSome_some, and_false, forall_const]
          rcases object.setUp_cases settings answers with
            ⟨err, failed, up⟩ | ⟨next, up, live, assuan⟩
          · rw [up]
            refine ⟨fun object' same => ?_, fun fine => absurd (setSubProtocol_ok fine) failed⟩
            cases same
          · rw [up]
            refine ⟨fun object' same => ?_,
              fun _ => ⟨next, rfl, tracks.carriesNothing_iff live assuan⟩⟩
            cases same
            exact tracks.prepared live assuan
  | none =>
      dsimp only
      by_cases failed : answers.newEngine ≠ 0
      · rw [if_pos failed]
        refine ⟨fun object' same => ?_, fun fine => absurd fine failed⟩
        cases same
      · rw [if_neg failed, setSubProtocol_engine]
        rcases GpgsmObject.setUp_cases {} settings answers with
          ⟨err, failed', up⟩ | ⟨next, up, live, assuan⟩
        · rw [up]
          refine ⟨fun object' same => ?_, fun fine => absurd (setSubProtocol_ok fine) failed'⟩
          cases same
        · rw [up]
          refine ⟨fun object' same => ?_, fun _ => ⟨next, rfl, ?_⟩⟩
          · cases same
            simpa using objectTracks_new.prepared live assuan
          · have clean := carriesNothing_new live assuan
            simp [clean]

theorem GpgsmSession.Tracked.perform {session : GpgsmSession} (tracked : session.Tracked)
    (unsignedCode : Bool) (op : SessionOperation)
    : (session.perform unsignedCode op).Tracked := by
  unfold GpgsmSession.perform
  cases engine : session.engine with
  | none =>
      intro object same
      rw [engine] at same
      cases same
  | some object =>
      intro object' same
      cases same
      exact (tracked object engine).perform unsignedCode op

/-- Nothing is carried over by any reset of a context exactly if what was done with an engine
object that is kept does not matter.
-/
theorem resets_carry_nothing_iff (unsignedCode : Bool) (steps : List SessionStep)
    : ResetsCarryNothing unsignedCode {} steps ↔ HistoryForgotten unsignedCode {} steps := by
  have start : GpgsmSession.Tracked {} := fun object same => by cases same
  revert start
  generalize ({} : GpgsmSession) = session
  intro tracked
  induction steps generalizing session with
  | nil => exact Iff.rfl
  | cons step later ih =>
      obtain ⟨ready, clean⟩ := tracked.reset step
      unfold ResetsCarryNothing HistoryForgotten
      dsimp only
      have next : (if (session.reset step).1 = 0 then
            (session.reset step).2.perform unsignedCode step.operation
          else
            (session.reset step).2).Tracked := by
        split
        · exact ready.perform unsignedCode step.operation
        · exact ready
      refine and_congr (imp_congr_right fun fine => ?_) (ih _ next)
      obtain ⟨object, engine, carries⟩ := clean fine
      rw [← carries, engine]
      simp

/-- An operation that the server ends with an error. -/
def failingStep : SessionStep where
  operation := { statusFnc := some fun _ => 0, calls := [[.text (str "ERR 1")]] }

/-- The reset behind it returns no error, and there is no connection. -/
theorem reset_without_connection : ¬ ResetsCarryNothing false {} [failingStep, {}] := by
  intro clean
  obtain ⟨object, engine, carries⟩ := clean.2.1 rfl
  have dead : ((GpgsmSession.perform false ((GpgsmSession.reset {} failingStep).2)
      failingStep.operation).reset {}).2.engine.map GpgsmObject.live = some false := by
    decide +kernel
  have both : some object.live = some false :=
    (congrArg (Option.map GpgsmObject.live) engine).symm.trans dead
  rw [carries.live] at both
  cases both

end Gpgme
