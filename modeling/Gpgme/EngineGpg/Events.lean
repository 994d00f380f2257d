import Gpgme.EngineGpg.StartFailures
import Gpgme.Lib.Machine

/-! What one event does to a running operation: which callback runs, and what it changes. -/

namespace Gpgme.Lifecycle

variable {w next : World} {lost : Set Nat} {s : Slot} {fd idx tag : Nat} {event : Event}
  {request : Request} {line : StatusLine}

-----------------------------------------------------------------------------------------
-- Runs
-----------------------------------------------------------------------------------------

def World.turn (w : World) (event : Event) : Unit × World := ((), w.step event)

/-- The engine after a run. -/
def World.run (w : World) (events : List Event) : World :=
  (Machine.runTotal World.turn w events).2

/-- Every event of the run meets a condition in the state in which it happens. -/
def World.Along (ok : World → Event → Prop) (w : World) (events : List Event) : Prop :=
  Machine.AlongTotal World.turn ok w events

instance (ok : World → Event → Prop) [∀ w event, Decidable (ok w event)] (w : World)
    (events : List Event)
    : Decidable (w.Along ok events) :=
  inferInstanceAs (Decidable (Machine.AlongTotal _ _ _ _))

/-- The line by which gpg asks for something, if a callback reads one. -/
def World.asking (w : World) : Event → Option StatusLine
  | .run tag (.line line) =>
      if (w.io.items tag).any (fun item => item.cb.handler = .status) ∧ line.request.isSome then
        some line
      else none
  | _ => none

/-- gpg asks only after its previous question was answered. -/
def World.InTurn (w : World) (event : Event) : Prop :=
  ∀ line ∈ w.asking event, w.waiting = false

instance (w : World) (event : Event) : Decidable (w.InTurn event) :=
  inferInstanceAs (Decidable (∀ line ∈ w.asking event, _))

-----------------------------------------------------------------------------------------
-- The parts of a callback
-----------------------------------------------------------------------------------------

/-- The loop cancels the operation when a callback has failed. -/
def World.settle : Bool × World → World
  | (true, next) => next
  | (false, next) => next.cancel

/-- gpg has asked and waits. -/
def World.noted (w : World) (request : Request) : World :=
  { w with asked := w.asked ++ [request], waiting := true }

/-- The engine with another question in the member `cmd`. -/
def World.coded (w : World) (code : Option GetCode) (keyword : Option Str) : World :=
  { w with gpg := { w.gpg with cmd := { w.gpg.cmd with code, keyword } } }

/-- The engine with a descriptor in an entry of the table. -/
def Gpg.setFd (gpg : Gpg) (idx : Nat) (fd : Option Nat) : Gpg :=
  gpg.modifyMap fun entries => setMapSlot entries fd (.fd idx)

/-- The command descriptor moves from the member `cmd` to the table. -/
def World.unpark (w : World) (idx : Nat) (fd : Option Nat) : World :=
  let gpg := w.gpg.setFd idx fd
  { w with gpg := { gpg with cmd := { gpg.cmd with fd := none } } }

/-- The command function was called. -/
def World.called (w : World) (fd : Option Nat) (failed processed : Bool) : World :=
  let cmd := w.gpg.cmd
  let newlines := if failed || processed then 0 else 1
  { w with
    calls :=
      w.calls ++ [{ code := cmd.code, keyword := cmd.keyword, fd, failed, processed, newlines }]
    waiting := failed
    gpg := { w.gpg with cmd := { cmd with code := none } } }

theorem World.step_run {item : IoTag Handler} {reaction : Reaction}
    (found : w.io.items tag = some item)
    : w.step (.run tag reaction) = settle (w.callback item.cb reaction) := by
  cases ran : w.callback item.cb reaction with
  | mk stays next => cases stays <;> simp only [step, settle, found, ran]

theorem World.readLine_plain (plain : line.request = none)
    : w.readLine line = (!line.vetoed && !line.failed, w) := by
  have same : { w with asked := w.asked ++ [], waiting := w.waiting || false } = w := by simp
  unfold readLine
  rw [plain]
  simp only [Option.toList_none, Option.isSome_none, same]
  cases line.vetoed <;> simp

theorem World.readLine_request (asks : line.request = some request)
    : w.readLine line
      = if line.vetoed then (false, w.noted request)
        else if w.gpg.cmd.used then (w.noted request).readRequest request line
        else (!line.failed, w.noted request) := by
  unfold readLine noted
  rw [asks]
  simp

theorem World.readRequest_failed (memory : line.memory = false)
    : w.readRequest request line = (false, w.coded (some request.code) none) := by
  unfold readRequest coded
  simp [memory]

-----------------------------------------------------------------------------------------
-- A question is taken up
-----------------------------------------------------------------------------------------

theorem World.unpark_slot (value : Option Nat) (inside : idx < w.gpg.fdDataMap.entries.length)
    : (w.unpark idx value).gpg.slot
      = Function.update (Function.update w.gpg.slot (.map (.fd idx)) value) .cmd none := by
  funext place
  rw [Function.update_apply, Function.update_apply]
  have moved : (w.gpg.setFd idx value).slot place = _ :=
    Gpg.slot_modifyMap (setMapSlot_nil value (.fd idx))
  cases place with
  | map m =>
      refine Eq.trans moved ?_
      dsimp only
      rw [mapSlot_set (s := .fd idx) (Or.inl inside), Function.update_apply]
      simp [Gpg.slot]
  | cmd => rfl
  | _ => exact moved

theorem World.unpark_tagOf (value : Option Nat)
    : (w.unpark idx value).gpg.tagOf = w.gpg.tagOf := by
  funext place
  have moved : (w.gpg.setFd idx value).tagOf place = _ :=
    Gpg.tagOf_modifyMap (setMapSlot_nil value (.fd idx))
  cases place with
  | map m =>
      refine Eq.trans moved ?_
      dsimp only
      rw [mapTag_set]
      rfl
  | cmd => rfl
  | _ => exact moved

theorem Gpg.entries_setFd (gpg : Gpg) (idx : Nat) (value : Option Nat)
    : (gpg.setFd idx value).fdDataMap.entries
      = setMapSlot gpg.fdDataMap.entries value (.fd idx) :=
  entries_modifyMap (setMapSlot_nil value (.fd idx))

theorem World.unpark_framed (value : Option Nat) : w.Framed (w.unpark idx value) := by
  refine ⟨?_, ?_, rfl, rfl, rfl, rfl, rfl⟩
  · unfold unpark Gpg.setFd
    rw [Gpg.modifyMap_frame]
    exact ⟨rfl, rfl, rfl, rfl, rfl⟩
  · refine Eq.trans (congrArg List.length (w.gpg.entries_setFd idx value)) ?_
    rw [length_setMapSlot]

theorem World.unpark_inbound (value : Option Nat) (i : Nat)
    : (w.unpark idx value).gpg.inbound i = w.gpg.inbound i := by
  have entries := w.gpg.entries_setFd idx value
  refine Eq.trans (congrArg (fun table => table[i]?.any PipeEntry.inbound) entries) ?_
  exact inbound_setMapSlot

theorem World.unpark_kept (kept : w.Kept lost) (parked : w.gpg.Parked idx)
    (held : w.gpg.cmd.fd = some fd)
    : (w.unpark idx (some fd)).Kept lost := by
  have slots := w.unpark_slot (some fd) parked.inside
  have heldSlot : w.gpg.slot .cmd = some fd := held
  have apart : Slot.cmd ≠ .map (.fd idx) := nofun
  refine ⟨?_, ?_, Gpg.pointer_modifyMap kept.pointer, kept.use, fun vacant => (vacant rfl).elim⟩
  · rw [slots, Function.update_comm apart.symm]
    exact kept.holds.move parked.empty heldSlot
  · intro place number found
    rw [slots, Function.update_apply, Function.update_apply] at found
    split at found
    · cases found
    · split at found
      · cases found
        exact kept.notified _ fd heldSlot
      · exact kept.notified place number found

/-- The registration for the command descriptor, with its move to the table. -/
def World.takeUp (w : World) (add : AddAnswers) (idx fd : Nat) : World :=
  (w.addIoCb add { fd := some fd, dir := 0, handler := .command } (.map (.fd idx))).2.unpark idx
    (some fd)

theorem World.readRequest_eq (place : w.gpg.cmd.idx = some idx) (held : w.gpg.cmd.fd = some fd)
    (memory : line.memory = true)
    : w.readRequest request line
      = (true, (w.coded (some request.code) (some request.keyword)).takeUp line.add idx fd) := by
  unfold readRequest coded takeUp unpark Gpg.setFd
  simp [memory, place, held]

variable {add : AddAnswers}

theorem World.takeUp_spec (add : AddAnswers) (kept : w.Kept lost) (parked : w.gpg.Parked idx)
    (held : w.gpg.cmd.fd = some fd)
    : (w.takeUp add idx fd).Kept lost
      ∧ (w.takeUp add idx fd).gpg.slot
        = Function.update (Function.update w.gpg.slot (.map (.fd idx)) (some fd)) .cmd none
      ∧ w.Framed (w.takeUp add idx fd) := by
  let registered :=
    (w.addIoCb add { fd := some fd, dir := 0, handler := .command } (.map (.fd idx))).2
  have framed : w.Framed registered := addIoCb_framed
  have slots : registered.gpg.slot = w.gpg.slot := addIoCb_slot
  have cmd : registered.gpg.cmd.fd = some fd := (congrFun slots .cmd).trans held
  have still : registered.gpg.Parked idx := by
    refine ⟨framed.alike.idx.trans parked.idx, framed.length ▸ parked.inside, ?_, by simp [cmd]⟩
    rw [slots]
    exact parked.empty
  refine ⟨unpark_kept (addIoCb_kept kept) still cmd, ?_, framed.trans (unpark_framed _)⟩
  rw [← slots]
  exact unpark_slot (some fd) still.inside

theorem World.takeUp_paired (paired : w.Paired) (used : w.gpg.cmd.used = true)
    (parked : w.gpg.Parked idx)
    (willing : w.io.user = true → add.table = true → add.app = true)
    (fresh : add.table = false → w.gpg.tagOf (.map (.fd idx)) = none)
    : (w.takeUp add idx fd).Paired := by
  have cb
      : ({ fd := some fd, dir := 0, handler := .command } : IoCb Handler)
        = w.gpg.cb (.map (.fd idx)) fd := by
    unfold Gpg.cb
    dsimp only
    rw [if_pos ⟨used, parked.idx⟩]
  let registered := (w.addIoCb add (w.gpg.cb (.map (.fd idx)) fd) (.map (.fd idx))).2
  have same : w.takeUp add idx fd = registered.unpark idx (some fd) := by
    unfold takeUp
    rw [cb]
  have framed : w.Framed registered := addIoCb_framed
  have slots : registered.gpg.slot = w.gpg.slot := addIoCb_slot
  have cbs : (registered.unpark idx (some fd)).gpg.cb = w.gpg.cb := by
    apply Gpg.cb_congr (framed.trans (unpark_framed _)).alike
    intro i
    rw [unpark_inbound]
    exact addIoCb_inbound i
  have tags
      : registered.gpg.tagOf
        = Function.update w.gpg.tagOf (.map (.fd idx))
            (w.io.add add (w.gpg.cb (.map (.fd idx)) fd)
              (w.gpg.tagOf (.map (.fd idx)))).1.2 :=
    Gpg.tagOf_setTag parked.inside
  rw [same]
  unfold World.Paired
  rw [unpark_slot (some fd) (framed.length ▸ parked.inside), unpark_tagOf, cbs, slots, tags]
  show (w.io.add add (w.gpg.cb (.map (.fd idx)) fd) (w.gpg.tagOf (.map (.fd idx)))).2.Paired _ _ _
  cases table : add.table with
  | false =>
      rw [IoTags.add_refused table]
      dsimp only
      rw [Function.update_eq_self]
      exact (paired.untagged (fresh table) (some fd)).untagged rfl none
  | true =>
      rw [IoTags.add_accepted ⟨table, fun user => willing user table⟩]
      have added := IoTags.Paired.added paired fd (Or.inl parked.empty)
      exact added.untagged (s := .cmd) rfl none

theorem World.takeUp_tagOf (fd : Nat) (parked : w.gpg.Parked idx) (accepts : w.io.Accepts add)
    : (w.takeUp add idx fd).gpg.tagOf (.map (.fd idx)) = some w.io.tags.created := by
  have taggable : w.gpg.Taggable (.map (.fd idx)) := parked.inside
  unfold takeUp
  rw [unpark_tagOf, addIoCb_world]
  dsimp only
  rw [Gpg.tagOf_setTag taggable, Function.update_self, IoTags.add_accepted accepts]

-----------------------------------------------------------------------------------------
-- A question is answered
-----------------------------------------------------------------------------------------

/-- The registration of the command descriptor is removed, and the descriptor is parked. -/
def World.putBack (w : World) (idx : Nat) : World :=
  (w.removeTag (w.gpg.tagOf (.map (.fd idx)))).park idx

theorem World.removeTag_frame (tag : Option Nat)
    : w.removeTag tag = { w with io := (w.removeTag tag).io } := by
  cases tag <;> rfl

theorem World.removeTag_framed (tag : Option Nat) : w.Framed (w.removeTag tag) := by
  rw [removeTag_frame]
  exact ⟨.refl w.gpg, rfl, user_removeTag tag, rfl, rfl, rfl, rfl⟩

theorem World.removeTag_kept (kept : w.Kept lost) (tag : Option Nat)
    : (w.removeTag tag).Kept lost := by
  rw [removeTag_frame]
  exact ⟨kept.holds, kept.notified, kept.pointer, kept.use, kept.parked⟩

theorem World.commandHandler_eq {failed processed : Bool} (place : w.gpg.cmd.idx = some idx)
    : w.commandHandler (some fd) failed processed
      = (!failed, (w.called (some fd) failed processed).putBack idx) := by
  unfold commandHandler called
  simp only [place]
  rfl

theorem World.putBack_spec (kept : w.Kept lost) (used : w.gpg.cmd.used = true)
    (empty : w.gpg.cmd.fd = none) (held : w.gpg.slot (.map (.fd idx)) = some fd)
    : (w.putBack idx).Kept lost
      ∧ (w.putBack idx).gpg.slot
        = Function.update (Function.update w.gpg.slot (.map (.fd idx)) none) .cmd (some fd)
      ∧ w.Framed (w.putBack idx) := by
  let tag := w.gpg.tagOf (.map (.fd idx))
  have same : (w.removeTag tag).gpg = w.gpg := by rw [removeTag_frame]
  refine ⟨?_, ?_, (removeTag_framed tag).trans (park_framed _ idx)⟩
  · apply park_kept (removeTag_kept kept tag)
    · rw [same]
      exact used
    · rw [same]
      exact empty
    · rw [same]
      exact held
  · unfold putBack
    rw [park_slot, same, held]

theorem World.putBack_paired (paired : w.Paired) (held : w.gpg.slot (.map (.fd idx)) = some fd)
    : (w.putBack idx).Paired := by
  let tag := w.gpg.tagOf (.map (.fd idx))
  have same : (w.removeTag tag).gpg = w.gpg := by rw [removeTag_frame]
  have removed := removeTag_paired paired held
  have cbs : (w.putBack idx).gpg.cb = w.gpg.cb := by
    refine Gpg.cb_congr ((removeTag_framed tag).trans (park_framed _ idx)).alike ?_
    intro i
    unfold putBack
    rw [park_inbound, same]
  unfold World.Paired
  rw [cbs]
  unfold putBack
  rw [park_slot, park_tagOf, same]
  exact removed.untagged (s := .cmd) rfl _

-----------------------------------------------------------------------------------------
-- Events
-----------------------------------------------------------------------------------------

theorem World.Paired.item {item : IoTag Handler} (paired : w.Paired)
    (found : w.io.items tag = some item)
    : ∃ s fd,
        w.gpg.slot s = some fd ∧ w.gpg.tagOf s = some tag ∧ item.cb = w.gpg.cb s fd := by
  obtain ⟨s, fd, held, mine⟩ := paired.owned tag item found
  obtain ⟨other, found', cb⟩ := paired.present s fd tag held mine
  rw [found] at found'
  cases found'
  exact ⟨s, fd, held, mine, cb⟩

theorem Gpg.inside_of_held {gpg : Gpg} (held : gpg.slot (.map (.fd idx)) = some fd)
    : idx < gpg.fdDataMap.entries.length := by
  by_contra outside
  rw [slot, mapSlot_outside (s := .fd idx) (Nat.le_of_not_lt outside)] at held
  cases held

/-- What an event can do. -/
inductive World.Effect (w : World) (event : Event) : World → Prop
  | idle : w.Effect event w
  | cancelled : w.Effect event w.cancel
  | closed (s : Slot) (fd : Nat) (held : w.gpg.slot s = some fd) (apart : s ≠ .cmd)
    (other
      : ∀ idx, w.gpg.cmd.used = true → w.gpg.cmd.idx = some idx → s ≠ .map (.fd idx))
    : w.Effect event (w.ioClose fd)
  | dropped (line : StatusLine) (request : Request) (code : Option GetCode)
    (keyword : Option Str) (asking : w.asking event = some line)
    (asks : line.request = some request)
    : w.Effect event ((w.noted request).coded code keyword).cancel
  | noted (line : StatusLine) (request : Request) (asking : w.asking event = some line)
    (asks : line.request = some request) (unused : w.gpg.cmd.used = false)
    : w.Effect event (w.noted request)
  | taken (line : StatusLine) (request : Request) (asking : w.asking event = some line)
    (asks : line.request = some request) (used : w.gpg.cmd.used = true)
    (heard : line.vetoed = false) (memory : line.memory = true)
    : w.Effect event ((w.noted request).readRequest request line).2
  | answered (idx fd tag : Nat) (failed processed : Bool) (used : w.gpg.cmd.used = true)
    (place : w.gpg.cmd.idx = some idx) (held : w.gpg.slot (.map (.fd idx)) = some fd)
    (mine : w.gpg.tagOf (.map (.fd idx)) = some tag)
    (runs : event = .run tag (.answered failed processed))
    : w.Effect event (settle (w.commandHandler (some fd) failed processed))

theorem World.effect_line {item : IoTag Handler} (found : w.io.items tag = some item)
    (cb : item.cb = w.gpg.cb .statusRead fd) (line : StatusLine)
    : w.Effect (.run tag (.line line)) (settle (w.readLine line)) := by
  cases asks : line.request with
  | none =>
      rw [readLine_plain asks]
      cases line.vetoed <;> cases line.failed
      · exact .idle
      · exact .cancelled
      · exact .cancelled
      · exact .cancelled
  | some request =>
      have asking : w.asking (.run tag (.line line)) = some line := by
        unfold asking
        simp [found, cb, asks, Gpg.cb]
      have refused : w.Effect (.run tag (.line line)) (w.noted request).cancel :=
        .dropped line request w.gpg.cmd.code w.gpg.cmd.keyword asking asks
      rw [readLine_request asks]
      cases vetoed : line.vetoed with
      | true => exact refused
      | false =>
          simp only [Bool.false_eq_true, if_false]
          cases used : w.gpg.cmd.used with
          | false =>
              simp only [Bool.false_eq_true, if_false]
              cases line.failed with
              | false => exact .noted line request asking asks used
              | true => exact refused
          | true =>
              simp only [if_true]
              cases memory : line.memory with
              | false =>
                  rw [readRequest_failed memory]
                  exact .dropped line request _ _ asking asks
              | true =>
                  have fine : ((w.noted request).readRequest request line).1 = true := by
                    unfold readRequest
                    simp only [memory, Bool.not_true, Bool.false_eq_true, if_false]
                    split <;> rfl
                  have settled
                      : settle ((w.noted request).readRequest request line)
                        = ((w.noted request).readRequest request line).2 := by
                    unfold settle
                    split
                    · next same => rw [same]
                    · next same =>
                        rw [same] at fine
                        cases fine
                  rw [settled]
                  exact .taken line request asking asks used vetoed memory

theorem World.effect_finish (held : w.gpg.slot s = some fd) (apart : s ≠ .cmd)
    (other : ∀ idx, w.gpg.cmd.used = true → w.gpg.cmd.idx = some idx → s ≠ .map (.fd idx))
    (result : Handled)
    : w.Effect event (settle (w.finish (some fd) result)) := by
  cases result with
  | stays => exact .idle
  | closes => exact .closed s fd held apart other
  | fails => exact .cancelled

theorem World.step_effect (paired : w.Paired) (event : Event)
    : w.Effect event (w.step event) := by
  cases event with
  | cancel => exact .cancelled
  | run tag reaction =>
      cases found : w.io.items tag with
      | none =>
          have same : w.step (.run tag reaction) = w := by
            unfold step
            dsimp only
            rw [found]
          rw [same]
          exact .idle
      | some item =>
          rw [step_run found]
          obtain ⟨s, fd, held, mine, cb⟩ := paired.item found
          cases s with
          | statusRead =>
              cases reaction with
              | line line =>
                  have line' := effect_line found cb line
                  rw [cb]
                  exact line'
              | eof failed =>
                  rw [cb]
                  exact effect_finish held nofun (fun _ _ _ => nofun) _
              | handled result =>
                  rw [cb]
                  exact .idle
              | answered failed processed =>
                  rw [cb]
                  exact .idle
          | colonRead =>
              rw [cb]
              cases reaction with
              | handled result => exact effect_finish held nofun (fun _ _ _ => nofun) result
              | _ => exact .idle
          | map m =>
              cases m with
              | peer i => cases mine
              | fd i =>
                  rw [cb]
                  by_cases isCommand : w.gpg.cmd.used = true ∧ w.gpg.cmd.idx = some i
                  · have command
                        : w.gpg.cb (.map (.fd i)) fd
                          = { fd := some fd, dir := 0, handler := .command } := by
                      unfold Gpg.cb
                      exact if_pos isCommand
                    rw [command]
                    cases reaction with
                    | answered failed processed =>
                        exact .answered i fd tag failed processed isCommand.1 isCommand.2 held mine
                          rfl
                    | _ => exact .idle
                  · have data
                        : w.gpg.cb (.map (.fd i)) fd
                          = { fd := some fd, dir := (w.gpg.inbound i).toNat, handler := .data } := by
                      unfold Gpg.cb
                      exact if_neg isCommand
                    rw [data]
                    cases reaction with
                    | handled result =>
                        refine effect_finish held nofun ?_ result
                        intro idx used place same
                        cases same
                        exact isCommand ⟨used, place⟩
                    | _ => exact .idle
          | statusWrite => cases mine
          | colonWrite => cases mine
          | cmd => cases mine

end Gpgme.Lifecycle
