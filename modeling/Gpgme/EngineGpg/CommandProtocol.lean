import Gpgme.EngineGpg.TagPairs

/-! The questions of gpg and their answers: who has the command descriptor, and which calls of the
command function a question leads to.
-/

namespace Gpgme.Lifecycle

open CString Fallible

variable {w next : World} {idx fd id : Nat} {event : Event}

-----------------------------------------------------------------------------------------
-- The protocol
-----------------------------------------------------------------------------------------

/-- The status code and the keyword of a question. -/
def Request.question (request : Request) : Option GetCode × Option Str :=
  (some request.code, some request.keyword)

/-- The status code and the keyword with which the command function was called. -/
def Call.question (call : Call) : Option GetCode × Option Str := (call.code, call.keyword)

/-- The call of the command function for a question. -/
def Request.call (request : Request) (fd : Nat) (failed processed : Bool) : Call where
  code := some request.code
  keyword := some request.keyword
  fd := some fd
  failed := failed
  processed := processed
  newlines := if failed || processed then 0 else 1

def World.questions (w : World) : List (Option GetCode × Option Str) :=
  w.asked.map Request.question

def World.answers (w : World) : List (Option GetCode × Option Str) := w.calls.map Call.question

/-- The descriptor waits in `cmd.fd`, and nothing is registered for it. -/
def World.ParkedAt (w : World) (idx fd : Nat) : Prop :=
  w.gpg.cmd.fd = some fd
  ∧ w.gpg.slot (.map (.fd idx)) ≠ some fd
  ∧ ∀ tag item, w.io.items tag = some item → item.cb.fd ≠ some fd

/-- The descriptor is in the table, registered for writing with a live tag. -/
def World.RegisteredAt (w : World) (idx fd : Nat) : Prop :=
  w.gpg.cmd.fd ≠ some fd
  ∧ w.gpg.slot (.map (.fd idx)) = some fd
  ∧ ∃ tag item,
      w.gpg.tagOf (.map (.fd idx)) = some tag
      ∧ w.io.items tag = some item
      ∧ item.cb = { fd := some fd, dir := 0, handler := .command }

/-- What holds between two events for the command descriptor `fd`, which is the pipe end `id`, with
the entry `idx` of the table.
-/
structure World.InProtocol (idx fd id : Nat) (w : World) : Prop where
  held
    : w.ends.ledger.Live id
      → w.ends.fds.files fd = some (some id)
        ∧ Xor (w.ParkedAt idx fd) (w.RegisteredAt idx fd)
  parked : w.ParkedAt idx fd → w.questions = w.answers
  registered
    : w.RegisteredAt idx fd
      → ∃ request,
          w.questions = w.answers ++ [Request.question request]
          ∧ ∀ tag failed processed,
              w.gpg.tagOf (.map (.fd idx)) = some tag
              → (w.step (.run tag (.answered failed processed))).calls
                = w.calls ++ [request.call fd failed processed]
  answered : ∃ rest, w.questions = w.answers ++ rest ∧ rest.length ≤ 1
  newline : ∀ call ∈ w.calls, call.newlines = if call.failed || call.processed then 0 else 1
  closed : w.release.ends.ledger.released.count id = 1

/-- The registration of the command descriptor for a question succeeds. -/
def World.Registers (w : World) (event : Event) : Prop :=
  ∀ line ∈ w.asking event,
    line.vetoed = false → line.memory = true → w.io.Accepts line.add

instance (w : World) (event : Event) : Decidable (w.Registers event) :=
  inferInstanceAs (Decidable (∀ line ∈ w.asking event, _ → _ → _ ∧ _))

/-- gpg asks in turn, and the registration for its question succeeds. -/
def World.Served (w : World) (event : Event) : Prop := w.InTurn event ∧ w.Registers event

instance (w : World) (event : Event) : Decidable (w.Served event) :=
  inferInstanceAs (Decidable (_ ∧ _))

-----------------------------------------------------------------------------------------
-- The account of questions and answers
-----------------------------------------------------------------------------------------

/-- The part of the invariant that does not depend on where the descriptor is. -/
structure World.Account (fd id : Nat) (w : World) : Prop where
  used : w.gpg.cmd.used = true
  same : ∀ other, w.ends.fds.files fd = some (some other) → other = id
  created : id < w.ends.ledger.created
  newline : ∀ call ∈ w.calls, call.newlines = if call.failed || call.processed then 0 else 1
  idle : w.waiting = false → w.questions = w.answers
  asked : ∃ rest, w.questions = w.answers ++ rest ∧ rest.length ≤ 1

theorem World.Account.congr (account : w.Account fd id) (used : next.gpg.cmd.used = w.gpg.cmd.used)
    (ends : w.ends.Fewer next.ends) (waiting : next.waiting = w.waiting)
    (asked : next.asked = w.asked) (calls : next.calls = w.calls)
    : next.Account fd id := by
  have questions : next.questions = w.questions := congrArg (List.map Request.question) asked
  have answers : next.answers = w.answers := congrArg (List.map Call.question) calls
  refine ⟨used.trans account.used, ?_, ends.created ▸ account.created, calls ▸ account.newline, ?_,
    ?_⟩
  · intro other found
    exact account.same other (ends.left fd other found)
  · intro idle
    rw [questions, answers]
    exact account.idle (waiting.symm.trans idle)
  · rw [questions, answers]
    exact account.asked

theorem World.Account.framed (account : w.Account fd id) (framed : w.Framed next)
    : next.Account fd id :=
  account.congr framed.alike.used (framed.ends ▸ .refl w.ends) framed.waiting framed.asked
    framed.calls

theorem World.Account.cancelled (account : w.Account fd id) (kept : w.Kept ∅)
    : w.cancel.Account fd id := by
  have cancels := cancel_spec kept
  exact account.congr cancels.alike.used cancels.ends cancels.waiting cancels.asked cancels.calls

theorem World.Account.noted (account : w.Account fd id) (turn : w.waiting = false)
    (request : Request)
    : (w.noted request).questions = (w.noted request).answers ++ [request.question]
      ∧ (w.noted request).Account fd id := by
  have questions : (w.noted request).questions = w.answers ++ [request.question] := by
    rw [← account.idle turn]
    unfold World.questions World.noted
    rw [List.map_append]
    rfl
  refine ⟨questions, account.used, account.same, account.created, account.newline, nofun, ?_⟩
  exact ⟨[request.question], questions, Nat.le_refl 1⟩

theorem World.Account.called (account : w.Account fd id) {request : Request}
    (code : w.gpg.cmd.code = some request.code)
    (keyword : w.gpg.cmd.keyword = some request.keyword)
    (pending : w.questions = w.answers ++ [request.question]) (failed processed : Bool)
    : (w.called (some fd) failed processed).calls
        = w.calls ++ [request.call fd failed processed]
      ∧ (w.called (some fd) failed processed).Account fd id := by
  have calls
      : (w.called (some fd) failed processed).calls
        = w.calls ++ [request.call fd failed processed] := by
    simp only [World.called, Request.call, code, keyword]
  have all
      : (w.called (some fd) failed processed).questions
        = (w.called (some fd) failed processed).answers := by
    unfold World.answers
    rw [calls, List.map_append]
    exact pending
  refine ⟨calls, account.used, account.same, account.created, ?_, fun _ => all, [], ?_, ?_⟩
  · intro call member
    rw [calls] at member
    rcases List.mem_append.mp member with before | now
    · exact account.newline call before
    · rw [List.mem_singleton.mp now]
      rfl
  · rw [all, List.append_nil]
  · exact Nat.zero_le 1

-----------------------------------------------------------------------------------------
-- The invariant
-----------------------------------------------------------------------------------------

/-- The invariant of the protocol: a descriptor in the table has a live tag, and its callback finds
the question in the member `cmd`.
-/
structure World.Dialog (idx fd id : Nat) (w : World) : Prop where
  operating : w.Operating idx fd
  account : w.Account fd id
  busy
    : w.gpg.slot (.map (.fd idx)) = some fd
      → w.gpg.tagOf (.map (.fd idx)) ≠ none
        ∧ ∃ request,
            w.gpg.cmd.code = some request.code
            ∧ w.gpg.cmd.keyword = some request.keyword
            ∧ w.questions = w.answers ++ [Request.question request]

theorem World.Registers.regular (registers : w.Registers event) (turn : w.InTurn event)
    : w.Regular event := by
  intro line asking _ heard memory
  have accepts := registers line asking heard memory
  refine ⟨turn line asking, fun user _ => accepts.2 user, ?_⟩
  intro fails
  rw [accepts.1] at fails
  cases fails

theorem World.Dialog.cancelled (kept : w.Kept ∅) (paired : w.Paired) (account : w.Account fd id)
    : w.cancel.Dialog idx fd id := by
  refine ⟨.cancelled kept paired, account.cancelled kept, ?_⟩
  intro held
  rw [(cancel_spec kept).empty] at held
  cases held

theorem World.Dialog.closed (dialog : w.Dialog idx fd id) {s : Slot} {number : Nat}
    (held : w.gpg.slot s = some number) (apart : s ≠ .cmd)
    (other
      : ∀ idx, w.gpg.cmd.used = true → w.gpg.cmd.idx = some idx → s ≠ .map (.fd idx))
    : (w.ioClose number).Dialog idx fd id := by
  obtain ⟨_, _, closes⟩ := ioClose_spec dialog.operating.kept held
  have questions : (w.ioClose number).questions = w.questions := congrArg (List.map Request.question) closes.asked
  have answers : (w.ioClose number).answers = w.answers := congrArg (List.map Call.question) closes.calls
  refine ⟨dialog.operating.closed held apart other,
    dialog.account.congr closes.alike.used closes.ends closes.waiting closes.asked closes.calls, ?_⟩
  intro now
  rcases closes.cleared (.map (.fd idx)) with same | empty
  · rw [closes.tagOf, closes.alike.code, closes.alike.keyword, questions, answers]
    exact dialog.busy (same.symm.trans now)
  · rw [empty] at now
    cases now

theorem World.Dialog.taken (dialog : w.Dialog idx fd id) {line : StatusLine} {request : Request}
    (turn : w.InTurn event) (registers : w.Registers event) (asking : w.asking event = some line)
    (used : w.gpg.cmd.used = true) (heard : line.vetoed = false) (memory : line.memory = true)
    : ((w.noted request).readRequest request line).2.Dialog idx fd id := by
  have operating := dialog.operating.taken request (registers.regular turn) asking used
    heard memory
  obtain ⟨parked, held⟩ := dialog.operating.parked used asking (turn line asking)
  obtain ⟨pending, account⟩ := dialog.account.noted (turn line asking) request
  obtain ⟨_, _, framed⟩ :=
    takeUp_spec line.add (before_kept dialog.operating.kept request)
      (before_parked parked) held
  have tagged :=
    takeUp_tagOf (w := w.before request) fd (before_parked parked)
      (registers line asking heard memory)
  rw [taken_eq parked held memory] at operating ⊢
  refine ⟨operating, ?_, ?_⟩
  · have before : (w.before request).Account fd id :=
      account.congr rfl (.refl _) rfl rfl rfl
    exact before.framed framed
  · intro _
    refine ⟨by rw [tagged]; exact Option.some_ne_none _, request, framed.alike.code,
      framed.alike.keyword, ?_⟩
    have questions
        : ((w.before request).takeUp line.add idx fd).questions = (w.noted request).questions :=
      congrArg (List.map Request.question) framed.asked
    have answers
        : ((w.before request).takeUp line.add idx fd).answers = (w.noted request).answers :=
      congrArg (List.map Call.question) framed.calls
    rw [questions, answers]
    exact pending

theorem World.Dialog.entry (dialog : w.Dialog idx fd id) {i number : Nat}
    (place : w.gpg.cmd.idx = some i) (held : w.gpg.slot (.map (.fd i)) = some number)
    : i = idx ∧ number = fd ∧ w.gpg.cmd.fd = none := by
  cases dialog.operating.command dialog.account.used with
  | parked parked _ _ =>
      have same : i = idx := Option.some.inj (place.symm.trans parked.idx)
      rw [same, parked.empty] at held
      cases held
  | gone empty =>
      rw [empty] at held
      cases held
  | busy place' empty held' _ =>
      have same : i = idx := Option.some.inj (place.symm.trans place')
      subst same
      exact ⟨rfl, Option.some.inj (held.symm.trans held'), empty⟩

theorem World.Dialog.answered (dialog : w.Dialog idx fd id) {i number : Nat}
    {failed processed : Bool} (used : w.gpg.cmd.used = true) (place : w.gpg.cmd.idx = some i)
    (held : w.gpg.slot (.map (.fd i)) = some number)
    : (settle (w.commandHandler (some number) failed processed)).Dialog idx fd id := by
  have operating :=
    dialog.operating.answered failed processed used place held
  obtain ⟨rfl, rfl, empty⟩ := dialog.entry place held
  obtain ⟨_, request, code, keyword, pending⟩ := dialog.busy held
  obtain ⟨_, account⟩ := dialog.account.called code keyword pending failed processed
  obtain ⟨kept, slots, framed⟩ :=
    putBack_spec (called_kept dialog.operating.kept (some number) failed processed) used empty held
  have accountNext : ((w.called (some number) failed processed).putBack i).Account number id :=
    account.framed framed
  rw [commandHandler_eq place] at operating ⊢
  cases failed with
  | true =>
      have paired : (w.called (some number) true processed).Paired := dialog.operating.paired
      exact .cancelled kept (putBack_paired paired held) accountNext
  | false =>
      refine ⟨operating, accountNext, ?_⟩
      intro now
      have vacant
          : ((w.called (some number) false processed).putBack i).gpg.slot (.map (.fd i))
            = none := by
        rw [slots, Function.update_of_ne (by simp), Function.update_self]
      cases vacant.symm.trans now

theorem World.Dialog.step (dialog : w.Dialog idx fd id) (turn : w.InTurn event)
    (registers : w.Registers event)
    : (w.step event).Dialog idx fd id := by
  have kept := dialog.operating.kept
  have paired := dialog.operating.paired
  have effect := step_effect paired event
  generalize w.step event = next at effect
  cases effect with
  | idle => exact dialog
  | cancelled => exact .cancelled kept paired dialog.account
  | closed s number held apart other => exact dialog.closed held apart other
  | dropped line request code keyword asking =>
      obtain ⟨_, account⟩ := dialog.account.noted (turn line asking) request
      refine .cancelled (coded_kept (noted_kept kept request) code keyword) paired ?_
      exact account.congr rfl (.refl _) rfl rfl rfl
  | noted line request asking asks unused =>
      rw [dialog.account.used] at unused
      cases unused
  | taken line request asking asks used heard memory =>
      exact dialog.taken turn registers asking used heard memory
  | answered i number tag failed processed used place held =>
      exact dialog.answered used place held

theorem World.Dialog.run (dialog : w.Dialog idx fd id) {events : List Event}
    (served : w.Along Served events)
    : (w.run events).Dialog idx fd id :=
  Machine.runTotal_invariant (fun before allowed => before.step allowed.1 allowed.2) dialog served

-----------------------------------------------------------------------------------------
-- What the invariant says
-----------------------------------------------------------------------------------------

theorem Gpg.cb_fd (gpg : Gpg) (s : Slot) (fd : Nat) : (gpg.cb s fd).fd = some fd := by
  cases s with
  | map m =>
      cases m with
      | peer i => rfl
      | fd i =>
          unfold cb
          dsimp only
          split <;> rfl
  | _ => rfl

theorem World.Dialog.cb (dialog : w.Dialog idx fd id) (place : w.gpg.cmd.idx = some idx)
    : w.gpg.cb (.map (.fd idx)) fd = { fd := some fd, dir := 0, handler := .command } :=
  if_pos ⟨dialog.account.used, place⟩

theorem World.Dialog.file (dialog : w.Dialog idx fd id) {s : Slot}
    (held : w.gpg.slot s = some fd)
    : w.ends.fds.files fd = some (some id) := by
  obtain ⟨other, found⟩ :=
    (dialog.operating.kept.holds.owns.isOpen fd).mpr (PipeEnds.mem_held held)
  rw [found, dialog.account.same other found]

theorem World.Dialog.parkedAt (dialog : w.Dialog idx fd id) (parked : w.gpg.Parked idx)
    (held : w.gpg.cmd.fd = some fd)
    : w.ParkedAt idx fd := by
  refine ⟨held, ?_, ?_⟩
  · rw [parked.empty]
    exact nofun
  · intro tag item found same
    obtain ⟨s, number, held', mine, cb⟩ := dialog.operating.paired.item found
    rw [cb, Gpg.cb_fd] at same
    cases same
    have here : s = .cmd := dialog.operating.kept.holds.distinct s .cmd fd held' held
    subst here
    cases mine

theorem World.Dialog.registeredAt (dialog : w.Dialog idx fd id)
    (place : w.gpg.cmd.idx = some idx) (empty : w.gpg.cmd.fd = none)
    (held : w.gpg.slot (.map (.fd idx)) = some fd)
    : w.RegisteredAt idx fd := by
  obtain ⟨tag, mine⟩ := Option.ne_none_iff_exists'.mp (dialog.busy held).1
  obtain ⟨item, found, cb⟩ := dialog.operating.paired.present _ fd tag held mine
  refine ⟨?_, held, tag, item, mine, found, cb.trans (dialog.cb place)⟩
  rw [empty]
  exact nofun

theorem World.Dialog.held (dialog : w.Dialog idx fd id) (live : w.ends.ledger.Live id)
    : w.ends.fds.files fd = some (some id) ∧ Xor (w.ParkedAt idx fd) (w.RegisteredAt idx fd) := by
  cases dialog.operating.command dialog.account.used with
  | parked parked held _ =>
      have here : w.gpg.slot .cmd = some fd := held
      refine ⟨dialog.file here, Or.inl ⟨dialog.parkedAt parked held, ?_⟩⟩
      intro registered
      exact registered.1 held
  | busy place empty held _ =>
      refine ⟨dialog.file held, Or.inr ⟨dialog.registeredAt place empty held, ?_⟩⟩
      intro parked
      exact parked.2.1 held
  | gone empty =>
      obtain ⟨number, found⟩ := w.ends.present id live
      rcases (dialog.operating.kept.holds.owns.isOpen number).mp ⟨id, found⟩ with ⟨s, held⟩ | lost
      · rw [empty] at held
        cases held
      · exact lost.elim

theorem World.Dialog.inProtocol (dialog : w.Dialog idx fd id) : w.InProtocol idx fd id := by
  refine ⟨dialog.held, ?_, ?_, dialog.account.asked, dialog.account.newline, ?_⟩
  · intro parked
    cases dialog.operating.command dialog.account.used with
    | parked _ _ answered => exact dialog.account.idle answered
    | busy _ empty _ _ =>
        rw [parked.1] at empty
        cases empty
    | gone empty => cases (empty .cmd).symm.trans parked.1
  · intro registered
    obtain ⟨_, held, _, item, mine, found, cb⟩ := registered
    obtain ⟨_, request, code, keyword, pending⟩ := dialog.busy held
    refine ⟨request, pending, ?_⟩
    intro tag failed processed mine'
    rw [mine] at mine'
    cases mine'
    obtain ⟨calls, _⟩ := dialog.account.called code keyword pending failed processed
    cases dialog.operating.command dialog.account.used with
    | parked parked _ _ => cases parked.empty.symm.trans held
    | gone empty => cases (empty _).symm.trans held
    | busy place empty _ _ =>
        obtain ⟨kept, _, framed⟩ :=
          putBack_spec (called_kept dialog.operating.kept (some fd) failed processed)
            dialog.account.used empty held
        have handled
            : w.callback item.cb (.answered failed processed)
              = (!failed, (w.called (some fd) failed processed).putBack idx) := by
          rw [cb]
          exact commandHandler_eq place
        rw [step_run found, handled, ← calls, ← framed.calls]
        cases failed with
        | true => exact (cancel_spec kept).calls
        | false => rfl
  · have cancels := cancel_spec dialog.operating.kept
    apply Ledger.count_released
    · exact cancels.ends.created ▸ dialog.account.created
    · intro live
      obtain ⟨number, found⟩ := w.release.ends.present id live
      rcases (cancels.kept.holds.owns.isOpen number).mp ⟨id, found⟩ with ⟨s, held⟩ | lost
      · rw [cancels.empty] at held
        cases held
      · exact lost.elim

-----------------------------------------------------------------------------------------
-- Whole operations
-----------------------------------------------------------------------------------------

theorem World.Running.dialog {p : Prepared} (running : w.Running p next)
    (command : p.options.cmdUsed = true)
    : ∃ idx fd id,
        next.gpg.cmd.idx = some idx
        ∧ next.gpg.cmd.fd = some fd
        ∧ next.ends.fds.files fd = some (some id)
        ∧ next.Dialog idx fd id := by
  have used := running.used.trans command
  obtain ⟨idx, parked⟩ := running.parked used
  obtain ⟨fd, held⟩ := Option.ne_none_iff_exists'.mp parked.held
  have here : next.gpg.slot .cmd = some fd := held
  obtain ⟨id, found⟩ := (running.kept.holds.owns.isOpen fd).mpr (PipeEnds.mem_held here)
  have questions : next.questions = [] := congrArg (List.map Request.question) running.asked
  have answers : next.answers = [] := congrArg (List.map Call.question) running.calls
  refine ⟨idx, fd, id, parked.idx, held, found, ?_, ⟨used, ?_, ?_, ?_, ?_, [], ?_, ?_⟩, ?_⟩
  · exact ⟨running.kept, running.paired, fun _ => .parked parked held running.waiting⟩
  · intro other found'
    rw [found] at found'
    cases found'
    rfl
  · exact (next.ends.live fd id found).1
  · rw [running.calls]
    exact nofun
  · rw [questions, answers]
    exact fun _ => rfl
  · rw [questions, answers]
    rfl
  · exact Nat.zero_le 1
  · intro busy
    rw [parked.empty] at busy
    cases busy

/-- Over every operation with a command handler, whatever the loop runs, the application cancels
and the other callbacks do, as long as each question comes in turn and gets its registration.
-/
theorem command_descriptor_protocol (user : Bool) (others : Descriptors Unit) (p : Prepared)
    (answers : StartAnswers) (started : World) (events : List Event)
    (command : p.options.cmdUsed = true)
    (ok : (World.prepared user others p).start p answers = .ok started)
    (served : started.Along World.Served events)
    : ∃ idx fd id,
        started.gpg.cmd.idx = some idx
        ∧ started.gpg.cmd.fd = some fd
        ∧ started.ends.fds.files fd = some (some id)
        ∧ (started.run events).InProtocol idx fd id := by
  have ends : Ends ((World.prepared user others p).start p answers) _ _ :=
    start_ends (World.prepared_ready user others p)
  rw [ok] at ends
  obtain ⟨idx, fd, id, place, held, found, dialog⟩ := ends.1.dialog command
  exact ⟨idx, fd, id, place, held, found, (dialog.run served).inProtocol⟩

/-- The engine with a command handler when its operation runs. -/
def commandsStarted : World :=
  (World.prepared false .empty withCommands).operate withCommands {} []

/-- Two questions, of which the second one is still open. -/
theorem command_descriptor_protocol_questions
    : ∃ idx fd id,
        commandsStarted.gpg.cmd.idx = some idx
        ∧ commandsStarted.gpg.cmd.fd = some fd
        ∧ commandsStarted.ends.fds.files fd = some (some id)
        ∧ (commandsStarted.run [
            .run 0 (.line { request := some ⟨.getBool, str "delete"⟩ }),
            .run 2 (.answered false false),
            .run 0 (.line { request := some ⟨.getHidden, str "passphrase"⟩ })]).InProtocol
              idx fd id :=
  command_descriptor_protocol false .empty withCommands {} commandsStarted _ rfl rfl (by decide)

/-- A question for whose registration the table has no room. -/
def refusedQuestion : List Event :=
  [.run 0 (.line { request := some ⟨.getBool, str "delete"⟩, add := { table := false } })]

/-- The descriptor is in the table, but without a tag. -/
theorem command_descriptor_unregistered
    : commandsStarted.Along World.InTurn refusedQuestion
      ∧ ∃ idx fd id,
          commandsStarted.gpg.cmd.idx = some idx
          ∧ commandsStarted.gpg.cmd.fd = some fd
          ∧ commandsStarted.ends.fds.files fd = some (some id)
          ∧ ¬(commandsStarted.run refusedQuestion).InProtocol idx fd id := by
  refine ⟨by decide, 0, 3, 3, rfl, rfl, rfl, ?_⟩
  intro protocol
  have live : (commandsStarted.run refusedQuestion).ends.ledger.Live 3 := by decide
  have left : (commandsStarted.run refusedQuestion).gpg.cmd.fd = none := by decide
  have untagged : (commandsStarted.run refusedQuestion).gpg.tagOf (.map (.fd 0)) = none := by
    decide
  rcases (protocol.held live).2 with parked | registered
  · cases left.symm.trans parked.1.1
  · obtain ⟨_, _, tag, _, mine, _⟩ := registered.1
    cases untagged.symm.trans mine

end Gpgme.Lifecycle
