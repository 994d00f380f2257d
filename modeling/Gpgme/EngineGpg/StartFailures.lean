import Gpgme.EngineGpg.Registering
import Mathlib.Data.List.TakeWhile

/-! Where `start` may fail, and what is left of the pipes when the engine is released then. -/

namespace Gpgme.Lifecycle

open CString Fallible

variable {w : World} {p : Prepared} {answers : StartAnswers} {options : EngineGpg}

-----------------------------------------------------------------------------------------
-- The condition
-----------------------------------------------------------------------------------------

/-- A call of `build_argv` fails behind one that has made a pipe. -/
def Prepared.LosesPipes (p : Prepared) (answers : StartAnswers) : Prop :=
  answers.program = true
  ∧ ∃ options useAgent,
      p.withLocale answers.localeMemory = some options
      ∧ answers.secondPass = some useAgent
      ∧ let calls := secondPassCalls options useAgent p.pgmname
        let made := calls.takeWhile answers.succeeds
        made ≠ calls ∧ ∃ k, Point.pipe k ∈ made

-----------------------------------------------------------------------------------------
-- The start as a whole
-----------------------------------------------------------------------------------------

/-- The arguments for the locale change nothing about the data objects. -/
theorem addLocale_command {before : EngineGpg} {option : Str} {memory : Nat → Bool} {first : Nat}
    {value : Option Str} (added : addLocale before option memory first value = some options)
    : options.cmdUsed = before.cmdUsed
      ∧ options.arglist.countP options.isCommand = before.arglist.countP before.isCommand := by
  unfold addLocale at added
  cases value with
  | none =>
      cases added
      exact ⟨rfl, rfl⟩
  | some value =>
      dsimp only at added
      split at added
      · cases added
        exact ⟨rfl, by simp [EngineGpg.addArgExt, EngineGpg.isCommand]; rfl⟩
      · cases added

/-- The options for the locale contain no command. -/
theorem withLocale_command {memory : Nat → Bool} (located : p.withLocale memory = some options)
    : options.cmdUsed = p.options.cmdUsed
      ∧ options.arglist.countP options.isCommand
        = p.options.arglist.countP p.options.isCommand := by
  obtain ⟨middle, first, second⟩ := Option.bind_eq_some_iff.mp located
  obtain ⟨used, count⟩ := addLocale_command first
  obtain ⟨used', count'⟩ := addLocale_command second
  exact ⟨used'.trans used, count'.trans count⟩

/-- The engine when the operation runs. -/
structure World.Running (p : Prepared) (w next : World) : Prop where
  kept : next.Kept ∅
  used : next.gpg.cmd.used = p.options.cmdUsed
  user : next.io.user = w.io.user
  waiting : next.waiting = false
  asked : next.asked = []
  calls : next.calls = []
  paired : next.Paired
  parked : next.gpg.cmd.used = true → ∃ i, next.gpg.Parked i

/-- The engine when the start has failed. -/
def World.Failed (p : Prepared) (answers : StartAnswers) (w failed : World) : Prop :=
  failed.io.user = w.io.user
  ∧ (answers.Willing w → failed.Paired)
  ∧ ∃ lost, failed.Kept lost ∧ (lost = ∅ ↔ ¬p.LosesPipes answers)

/-- The fields of the child are all there when it is made. -/
theorem World.Built.unregistered {built : World} (ready : w.Ready p)
    (located : p.withLocale answers.localeMemory = some options) (done : w.Built options built)
    : let closed := built.fdList.foldl World.ioClose built
      closed.Unregistered ∧ built.Closes closed := by
  have fields : built.gpg = {
      w.gpg with
      fdDataMap := .table built.gpg.fdDataMap.entries
      cmd := { w.gpg.cmd with idx := built.gpg.cmd.idx } } :=
    done.alike
  have filled (i : Nat) (inside : i < built.gpg.fdDataMap.entries.length)
      : built.gpg.slot (.map (.fd i)) ≠ none ∧ built.gpg.slot (.map (.peer i)) ≠ none := by
    have entry := done.filled _ (List.getElem_mem inside)
    simp only [Gpg.slot, mapSlot, List.getElem?_eq_getElem inside, Option.bind_some]
    exact ⟨entry.1, entry.2.1⟩
  have statusWrite : built.gpg.statusWrite = w.gpg.statusWrite := by rw [fields]
  have statusRead : built.gpg.statusRead = w.gpg.statusRead := by rw [fields]
  have colonWrite : built.gpg.colonWrite = w.gpg.colonWrite := by rw [fields]
  have colonRead : built.gpg.colonRead = w.gpg.colonRead := by rw [fields]
  have colonFnc : built.gpg.colonFnc = w.gpg.colonFnc := by rw [fields]
  have used : built.gpg.cmd.used = w.gpg.cmd.used := by rw [fields]
  have fd : built.gpg.cmd.fd = w.gpg.cmd.fd := by rw [fields]
  have child : ∀ s ∈ built.childSlots, built.gpg.slot s ≠ none := by
    intro s member
    unfold World.childSlots at member
    simp only [List.mem_append, List.mem_singleton, List.mem_map, List.mem_range] at member
    rcases member with (rfl | colon) | ⟨i, inside, rfl⟩
    · show built.gpg.statusWrite ≠ none
      rw [statusWrite]
      exact ready.statusWrite
    · split at colon
      · next fnc =>
          rw [List.mem_singleton.mp colon]
          show built.gpg.colonWrite ≠ none
          rw [colonWrite]
          rw [colonFnc] at fnc
          exact ready.colonWrite fnc
      · cases colon
    · exact (filled i inside).2
  obtain ⟨kept, slots, closes⟩ := World.closeChild_spec done.kept child
  have others (s : Slot) (outside : s ∉ built.childSlots)
      : (built.fdList.foldl World.ioClose built).gpg.slot s = built.gpg.slot s := by
    rw [slots, if_neg outside]
  have notChild (s : Slot) (status : s ≠ .statusWrite) (colon : s ≠ .colonWrite)
      (peer : ∀ i, s ≠ .map (.peer i))
      : s ∉ built.childSlots := by
    unfold World.childSlots
    cases built.gpg.colonFnc <;> simp [status, colon, fun i => (peer i).symm]
  refine ⟨⟨kept, closes.paired done.paired, ?_, ?_, ?_, ?_, ?_, ?_⟩, closes⟩
  · intro s
    rw [closes.tagOf, done.untagged]
  · have same := others .cmd (notChild _ (by simp) (by simp) (by simp))
    refine Eq.trans same ?_
    show built.gpg.cmd.fd = none
    rw [fd, ready.fd]
  · have same := others .statusRead (notChild _ (by simp) (by simp) (by simp))
    intro none
    apply ready.statusRead
    rw [← statusRead]
    exact same.symm.trans none
  · intro fnc none
    have same := others .colonRead (notChild _ (by simp) (by simp) (by simp))
    rw [closes.alike.colonFnc, colonFnc] at fnc
    apply ready.colonRead fnc
    rw [← colonRead]
    exact same.symm.trans none
  · intro i inside
    rw [closes.length] at inside
    rw [others _ (notChild _ (by simp) (by simp) (by simp))]
    exact (filled i inside).1
  · intro idx isUsed place
    rw [closes.alike.used, used, ready.used] at isUsed
    rw [closes.alike.idx] at place
    obtain ⟨locatedUsed, count⟩ := withLocale_command located
    have once : options.arglist.countP options.isCommand ≠ 0 := by
      rw [count, p.command isUsed]
      exact Nat.one_ne_zero
    obtain ⟨i, inside, same⟩ := done.placed once
    rw [same] at place
    cases place
    rw [closes.length]
    exact inside

/-- `start` either brings the operation to run or leaves the engine without the pipes that were
made in front of a failure of `build_argv`.
-/
theorem start_ends (ready : w.Ready p)
    : Ends (w.start p answers)
        (fun next => w.Running p next ∧ ¬p.LosesPipes answers)
        (w.Failed p answers) := by
  have early (reason : ¬p.LosesPipes answers) : w.Failed p answers w :=
    ⟨rfl, fun _ => ready.paired, ∅, ready.kept, by simp [reason]⟩
  unfold World.start
  cases program : answers.program with
  | false =>
      apply early
      intro loses
      rw [loses.1] at program
      cases program
  | true =>
      simp only [Bool.not_true, Bool.false_eq_true, if_false]
      cases located : p.withLocale answers.localeMemory with
      | none =>
          apply early
          intro loses
          obtain ⟨_, options, _, found, _⟩ := loses
          rw [located] at found
          cases found
      | some options =>
          have loses
              : p.LosesPipes answers
                ↔ ∃ useAgent,
                    answers.secondPass = some useAgent
                    ∧ let calls := secondPassCalls options useAgent p.pgmname
                      let made := calls.takeWhile answers.succeeds
                      made ≠ calls ∧ ∃ k, Point.pipe k ∈ made := by
            unfold Prepared.LosesPipes
            simp [program, located]
          refine Ends.bind
            ((buildArgv_ends ready.plain ready.kept p.pgmname).imp (fun _ built => built) ?_) ?_
          · intro failed stopped
            rcases stopped with ⟨rfl, refused⟩ | ⟨useAgent, reached, stopped⟩
            · apply early
              rw [loses]
              simp [refused]
            · obtain ⟨io, paired, different, lost, kept, none⟩ := stopped
              refine ⟨congrArg IoTags.user io, fun _ => paired, lost, kept, ?_⟩
              rw [none, loses]
              constructor
              · intro keeps lost
                obtain ⟨useAgent', reached', _, k, member⟩ := lost
                rw [reached] at reached'
                cases reached'
                exact keeps k member
              · intro keeps k member
                exact keeps ⟨useAgent, reached, different, k, member⟩
          · intro built done
            obtain ⟨done, useAgent, reached, passed⟩ := done
            have keeps : ¬p.LosesPipes answers := by
              rw [loses]
              intro lost
              obtain ⟨useAgent', reached', different, _⟩ := lost
              rw [reached] at reached'
              cases reached'
              apply different
              exact List.takeWhile_eq_self_iff.mpr passed
            have noLoss (failed : World) (kept : failed.Kept ∅)
                : ∃ lost, failed.Kept lost ∧ (lost = ∅ ↔ ¬p.LosesPipes answers) :=
              ⟨∅, kept, by simp [keeps]⟩
            split
            · exact ⟨congrArg IoTags.user done.io, fun _ => done.paired, noLoss built done.kept⟩
            · obtain ⟨unregistered, closes⟩ := done.unregistered ready located
              have user : (built.fdList.foldl World.ioClose built).io.user = w.io.user :=
                closes.user.trans (congrArg IoTags.user done.io)
              have willing (all : answers.Willing w)
                  : answers.Willing (built.fdList.foldl World.ioClose built) := by
                intro isUser
                rw [user] at isUser
                exact all isUser
              refine (registerAll_ends unregistered).imp ?_ ?_
              · intro next started
                have framed := started.framed
                have same : next.gpg.cmd.used = w.gpg.cmd.used := by
                  rw [framed.alike.used, closes.alike.used, done.alike]
                refine ⟨⟨started.kept, ?_, framed.user.trans user, ?_, ?_, ?_, ?_, ?_⟩, keeps⟩
                · rw [same, ready.used]
                · rw [framed.waiting, closes.waiting, done.waiting, ready.waiting]
                · rw [framed.asked, closes.asked, done.asked, ready.asked]
                · rw [framed.calls, closes.calls, done.calls, ready.calls]
                · exact started.paired
                · intro used
                  obtain ⟨locatedUsed, count⟩ := withLocale_command located
                  have isUsed : p.options.cmdUsed = true := by
                    rw [← ready.used, ← same, used]
                  have once : options.arglist.countP options.isCommand ≠ 0 := by
                    rw [count, p.command isUsed]
                    exact Nat.one_ne_zero
                  obtain ⟨i, _, place⟩ := done.placed once
                  refine ⟨i, started.parked i used ?_⟩
                  rw [framed.alike.idx, closes.alike.idx, place]
              · intro failed broken
                obtain ⟨kept, framed, paired⟩ := broken
                exact ⟨framed.user.trans user, fun all => paired (willing all),
                  noLoss failed kept⟩

/-- The engine at its end: it is released after the start, or after a start that failed. -/
def World.life (w : World) (p : Prepared) (answers : StartAnswers) : World :=
  match w.start p answers with
  | .ok started => started.release
  | .error failed => failed.release

/-- Every pipe end was closed exactly once, and no notification has met a table that was freed. -/
def World.NoneLost (w : World) : Prop := w.ends.ledger.Balanced ∧ w.danglingUse = false

/-- Nothing is lost by a release exactly when nothing was lost before. -/
theorem World.Kept.release {lost : Set Nat} (kept : w.Kept lost)
    : w.release.NoneLost ↔ lost = ∅ := by
  have cancels := World.cancel_spec kept
  unfold World.NoneLost World.release
  rw [cancels.kept.holds.balanced_iff cancels.empty]
  simp [cancels.kept.use]

/-- For every list of arguments and every point of failure. -/
theorem life_noneLost_iff (user : Bool) (others : Descriptors Unit) (p : Prepared)
    (answers : StartAnswers)
    : ((World.prepared user others p).life p answers).NoneLost ↔ ¬p.LosesPipes answers := by
  have ready := World.prepared_ready user others p
  have ends
      : Ends ((World.prepared user others p).start p answers) _ _ :=
    start_ends ready
  unfold World.life
  cases started : (World.prepared user others p).start p answers with
  | ok next =>
      rw [started] at ends
      obtain ⟨running, keeps⟩ := ends
      simp [running.kept.release, keeps]
  | error failed =>
      rw [started] at ends
      obtain ⟨_, _, lost, kept, none⟩ := ends
      dsimp only
      rw [kept.release, none]

end Gpgme.Lifecycle
