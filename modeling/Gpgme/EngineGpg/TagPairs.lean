import Gpgme.EngineGpg.Events

/-! The registrations of an operation from its start to the release of the engine: every tag is
removed exactly once.
-/

namespace Gpgme.Lifecycle

open CString Fallible

variable {w : World} {idx fd : Nat} {event : Event}

-----------------------------------------------------------------------------------------
-- A running operation
-----------------------------------------------------------------------------------------

/-- Where the command descriptor is. -/
inductive World.Place (idx fd : Nat) (w : World) : Prop
  | parked (parked : w.gpg.Parked idx) (held : w.gpg.cmd.fd = some fd)
    (answered : w.waiting = false)
  | busy (place : w.gpg.cmd.idx = some idx) (empty : w.gpg.cmd.fd = none)
    (held : w.gpg.slot (.map (.fd idx)) = some fd) (asked : w.waiting = true)
  | gone (empty : ∀ s, w.gpg.slot s = none)

/-- The engine between two events. -/
structure World.Operating (idx fd : Nat) (w : World) : Prop where
  kept : w.Kept ∅
  paired : w.Paired
  command : w.gpg.cmd.used = true → w.Place idx fd

/-- gpg asks in turn, and the registration of the command descriptor for its question is not
refused by the user. It fails in front of that only when it is the first one.
-/
def World.Regular (w : World) (event : Event) : Prop :=
  ∀ line ∈ w.asking event,
    w.gpg.cmd.used = true
    → line.vetoed = false
    → line.memory = true
    → w.waiting = false
      ∧ (w.io.user = true → line.add.table = true → line.add.app = true)
      ∧ (line.add.table = false
        → ∀ idx ∈ w.gpg.cmd.idx, w.gpg.tagOf (.map (.fd idx)) = none)

instance (w : World) (event : Event) : Decidable (w.Regular event) :=
  inferInstanceAs (Decidable (∀ line ∈ w.asking event, _))

theorem World.Operating.cancelled (kept : w.Kept ∅) (paired : w.Paired)
    : w.cancel.Operating idx fd := by
  have cancels := cancel_spec kept
  exact ⟨cancels.kept, cancels.paired paired, fun _ => .gone cancels.empty⟩

theorem World.asking_over (paired : w.Paired) (empty : ∀ s, w.gpg.slot s = none)
    : w.asking event = none := by
  cases event with
  | cancel => rfl
  | run tag reaction =>
      cases reaction with
      | line line =>
          have gone : w.io.items tag = none := by
            cases found : w.io.items tag with
            | none => rfl
            | some item =>
                obtain ⟨s, fd, held, _⟩ := paired.owned tag item found
                rw [empty] at held
                cases held
          simp [asking, gone]
      | _ => rfl

theorem World.Operating.closed (operating : w.Operating idx fd) {s : Slot} {number : Nat}
    (held : w.gpg.slot s = some number) (apart : s ≠ .cmd)
    (other
      : ∀ idx, w.gpg.cmd.used = true → w.gpg.cmd.idx = some idx → s ≠ .map (.fd idx))
    : (w.ioClose number).Operating idx fd := by
  obtain ⟨kept, slots, closes⟩ := ioClose_spec operating.kept held
  refine ⟨kept, closes.paired operating.paired, ?_⟩
  intro used
  rw [closes.alike.used] at used
  have cmd : (w.ioClose number).gpg.cmd.fd = w.gpg.cmd.fd :=
    (congrFun slots .cmd).trans (Function.update_of_ne apart.symm _ _)
  have entry (place : w.gpg.cmd.idx = some idx)
      : (w.ioClose number).gpg.slot (.map (.fd idx)) = w.gpg.slot (.map (.fd idx)) := by
    rw [slots, Function.update_of_ne (other idx used place).symm]
  cases operating.command used with
  | parked parked held answered =>
      refine .parked ⟨closes.alike.idx.trans parked.idx, closes.length ▸ parked.inside, ?_, ?_⟩
        (cmd.trans held) (closes.waiting.trans answered)
      · rw [entry parked.idx]
        exact parked.empty
      · rw [cmd]
        exact parked.held
  | busy place empty held asked =>
      exact .busy (closes.alike.idx.trans place) (cmd.trans empty) ((entry place).trans held)
        (closes.waiting.trans asked)
  | gone empty =>
      rw [empty] at held
      cases held

theorem World.Operating.parked (operating : w.Operating idx fd) (used : w.gpg.cmd.used = true)
    {line : StatusLine} (asking : w.asking event = some line) (turn : w.waiting = false)
    : w.gpg.Parked idx ∧ w.gpg.cmd.fd = some fd := by
  cases operating.command used with
  | parked parked held _ => exact ⟨parked, held⟩
  | busy _ _ _ asked =>
      rw [turn] at asked
      cases asked
  | gone empty =>
      rw [asking_over operating.paired empty] at asking
      cases asking

/-- The world in which the registration for a question is made. -/
def World.before (w : World) (request : Request) : World :=
  (w.noted request).coded (some request.code) (some request.keyword)

theorem World.before_parked {request : Request} (parked : w.gpg.Parked idx)
    : (w.before request).gpg.Parked idx :=
  ⟨parked.idx, parked.inside, parked.empty, parked.held⟩

theorem World.coded_kept {lost : Set Nat} (kept : w.Kept lost) (code : Option GetCode)
    (keyword : Option Str)
    : (w.coded code keyword).Kept lost :=
  ⟨kept.holds, kept.notified, kept.pointer, kept.use, kept.parked⟩

theorem World.noted_kept {lost : Set Nat} (kept : w.Kept lost) (request : Request)
    : (w.noted request).Kept lost :=
  ⟨kept.holds, kept.notified, kept.pointer, kept.use, kept.parked⟩

theorem World.before_kept {lost : Set Nat} (kept : w.Kept lost) (request : Request)
    : (w.before request).Kept lost :=
  coded_kept (noted_kept kept request) _ _

theorem World.called_kept {lost : Set Nat} (kept : w.Kept lost) (number : Option Nat)
    (failed processed : Bool)
    : (w.called number failed processed).Kept lost :=
  ⟨kept.holds, kept.notified, kept.pointer, kept.use, kept.parked⟩

theorem World.taken_eq {request : Request} {line : StatusLine} (parked : w.gpg.Parked idx)
    (held : w.gpg.cmd.fd = some fd) (memory : line.memory = true)
    : ((w.noted request).readRequest request line).2
      = (w.before request).takeUp line.add idx fd := by
  rw [readRequest_eq (w := w.noted request) parked.idx held memory]
  rfl

theorem World.Operating.taken (operating : w.Operating idx fd) {line : StatusLine}
    (request : Request) (regular : w.Regular event) (asking : w.asking event = some line)
    (used : w.gpg.cmd.used = true) (heard : line.vetoed = false) (memory : line.memory = true)
    : ((w.noted request).readRequest request line).2.Operating idx fd := by
  obtain ⟨turn, willing, first⟩ := regular line asking used heard memory
  obtain ⟨parked, held⟩ := operating.parked used asking turn
  rw [taken_eq parked held memory]
  obtain ⟨kept, slots, framed⟩ :=
    takeUp_spec line.add (before_kept operating.kept request) (before_parked parked) held
  have paired : ((w.before request).takeUp line.add idx fd).Paired :=
    takeUp_paired (w := w.before request) operating.paired used (before_parked parked) willing
      (fun table => first table idx parked.idx)
  refine ⟨kept, paired, ?_⟩
  intro _
  refine .busy (framed.alike.idx.trans parked.idx) ?_ ?_ framed.waiting
  · refine (congrFun slots .cmd).trans ?_
    rw [Function.update_self]
  · rw [slots, Function.update_of_ne (by simp), Function.update_self]

theorem World.Operating.answered (operating : w.Operating idx fd) {i number : Nat}
    (failed processed : Bool) (used : w.gpg.cmd.used = true) (place : w.gpg.cmd.idx = some i)
    (held : w.gpg.slot (.map (.fd i)) = some number)
    : (settle (w.commandHandler (some number) failed processed)).Operating idx fd := by
  rw [commandHandler_eq place]
  have kept := called_kept operating.kept (some number) failed processed
  have paired : (w.called (some number) failed processed).Paired := operating.paired
  cases operating.command used with
  | parked parked _ _ =>
      have same : i = idx := Option.some.inj (place.symm.trans parked.idx)
      rw [same, parked.empty] at held
      cases held
  | gone empty =>
      rw [empty] at held
      cases held
  | busy place' empty held' _ =>
      have same : i = idx := Option.some.inj (place.symm.trans place')
      subst same
      have number' : number = fd := Option.some.inj (held.symm.trans held')
      subst number'
      obtain ⟨keptNext, slots, framed⟩ := putBack_spec kept used empty held
      have pairedNext := putBack_paired paired held
      cases failed with
      | true => exact .cancelled keptNext pairedNext
      | false =>
          show ((w.called (some number) false processed).putBack i).Operating i number
          refine ⟨keptNext, pairedNext, ?_⟩
          intro _
          have cmd
              : ((w.called (some number) false processed).putBack i).gpg.cmd.fd = some number := by
            refine (congrFun slots .cmd).trans ?_
            rw [Function.update_self]
          refine .parked ⟨framed.alike.idx.trans place, ?_, ?_, by simp [cmd]⟩ cmd framed.waiting
          · rw [framed.length]
            exact Gpg.inside_of_held held
          · rw [slots, Function.update_of_ne (by simp), Function.update_self]

theorem World.Operating.step (operating : w.Operating idx fd) (regular : w.Regular event)
    : (w.step event).Operating idx fd := by
  have kept := operating.kept
  have paired := operating.paired
  have effect := step_effect paired event
  generalize w.step event = next at effect
  cases effect with
  | idle => exact operating
  | cancelled => exact .cancelled kept paired
  | closed s number held apart other => exact operating.closed held apart other
  | dropped line request code keyword =>
      exact .cancelled (coded_kept (noted_kept kept request) code keyword) paired
  | noted line request asking asks unused =>
      refine ⟨noted_kept kept request, paired, ?_⟩
      intro used
      rw [show w.gpg.cmd.used = true from used] at unused
      cases unused
  | taken line request asking asks used heard memory =>
      exact operating.taken request regular asking used heard memory
  | answered i number tag failed processed used place held =>
      exact operating.answered failed processed used place held

-----------------------------------------------------------------------------------------
-- Whole operations
-----------------------------------------------------------------------------------------

theorem World.Operating.run (operating : w.Operating idx fd) {events : List Event}
    (regular : w.Along Regular events)
    : (w.run events).Operating idx fd :=
  Machine.runTotal_invariant (fun before allowed => before.step allowed) operating regular

theorem World.Running.operating {p : Prepared} {next : World} (running : w.Running p next)
    : ∃ idx fd, next.Operating idx fd := by
  cases used : next.gpg.cmd.used with
  | false =>
      refine ⟨0, 0, running.kept, running.paired, ?_⟩
      intro used'
      rw [used] at used'
      cases used'
  | true =>
      obtain ⟨idx, parked⟩ := running.parked used
      obtain ⟨fd, held⟩ := Option.ne_none_iff_exists'.mp parked.held
      exact ⟨idx, fd, running.kept, running.paired, fun _ => .parked parked held running.waiting⟩

/-- The engine after its start and a run of events, or after a start that has failed. -/
def World.operate (w : World) (p : Prepared) (answers : StartAnswers) (events : List Event)
    : World :=
  match w.start p answers with
  | .ok started => started.run events
  | .error failed => failed

/-- No tag is removed after it was freed, none of the user is removed twice, and once the engine
is released each of them was removed exactly once.
-/
structure World.TagsInOrder (w : World) : Prop where
  exact : w.io.tags.stray = 0
  userExact : w.io.app.stray = 0
  released : w.release.io.tags.Balanced
  userReleased : w.release.io.app.Balanced

theorem World.Paired.tagsInOrder {lost : Set Nat} (paired : w.Paired) (kept : w.Kept lost)
    : w.TagsInOrder := by
  have cancels := cancel_spec kept
  obtain ⟨tags, app⟩ := IoTags.Paired.balanced (cancels.paired paired) cancels.empty
  exact ⟨paired.exact, paired.sound.exact, tags, app⟩

/-- Over every operation whose registrations are not refused by the user, and in which gpg and the
table meet the condition at every question.
-/
theorem registrations_paired (user : Bool) (others : Descriptors Unit) (p : Prepared)
    (answers : StartAnswers) (events : List Event)
    (willing : answers.Willing (World.prepared user others p))
    (regular
      : ∀ started,
          (World.prepared user others p).start p answers = .ok started
          → started.Along World.Regular events)
    : ((World.prepared user others p).operate p answers events).TagsInOrder := by
  have ends : Ends ((World.prepared user others p).start p answers) _ _ :=
    start_ends (World.prepared_ready user others p)
  unfold World.operate
  cases started : (World.prepared user others p).start p answers with
  | ok next =>
      rw [started] at ends
      obtain ⟨idx, fd, operating⟩ := ends.1.operating
      have last := operating.run (regular next started)
      exact last.paired.tagsInOrder last.kept
  | error failed =>
      rw [started] at ends
      obtain ⟨_, paired, lost, kept, _⟩ := ends
      exact (paired willing).tagsInOrder kept

/-- An operation with a data object and a command handler. -/
def withCommands : Prepared where
  options := {
    arglist := [.data 7 false (-1) true, .data 0 true (-1) false]
    cmdUsed := true
    cmdCbData := some 7 }
  pgmname := []
  command := by decide

/-- A question and its answer, while the loop of the user takes every registration. -/
theorem registrations_paired_question
    : ((World.prepared true .empty withCommands).operate withCommands {}
        [.run 0 (.line { request := some ⟨.getBool, str "delete"⟩ }),
          .run 2 (.answered false true)]).TagsInOrder := by
  apply registrations_paired
  · exact fun _ _ _ => rfl
  · intro started found
    cases found
    decide

/-- The user refuses the registration of the status pipe. Its tag is freed, but `gpg_release`
removes it again.
-/
theorem refused_registration_removed_again
    : ¬((World.prepared true .empty withCommands).operate withCommands
          { add := fun _ => { app := false } } []).TagsInOrder := by
  intro inOrder
  exact absurd inOrder.released (by decide)

end Gpgme.Lifecycle
