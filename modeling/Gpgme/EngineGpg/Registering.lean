import Gpgme.EngineGpg.Starting

/-! The registrations that `start` makes, and the parked command descriptor. -/

namespace Gpgme.Lifecycle

open Fallible

variable {w next : World} {lost : Set Nat} {s t : Slot} {answers : StartAnswers}
  {options : EngineGpg}

-----------------------------------------------------------------------------------------
-- Registrations
-----------------------------------------------------------------------------------------

/-- The field has one for a tag next to it. -/
def Gpg.Taggable (gpg : Gpg) : Slot → Prop
  | .statusRead | .colonRead => True
  | .map (.fd i) => i < gpg.fdDataMap.entries.length
  | .statusWrite | .colonWrite | .cmd | .map (.peer _) => False

variable {gpg : Gpg} {tag : Option Nat} {fd : Nat}

theorem setMapTag_nil (i : Nat) : setMapTag [] tag i = [] := by
  simp [setMapTag]

theorem Gpg.entries_setTag (i : Nat)
    : (gpg.setTag tag (.map (.fd i))).fdDataMap.entries = setMapTag gpg.fdDataMap.entries tag i :=
  entries_modifyMap (setMapTag_nil i)

theorem Gpg.setTag_frame (i : Nat)
    : gpg.setTag tag (.map (.fd i))
      = { gpg with fdDataMap := (gpg.setTag tag (.map (.fd i))).fdDataMap } :=
  modifyMap_frame

theorem Gpg.slot_setTag : (gpg.setTag tag s).slot = gpg.slot := by
  funext place
  cases s with
  | map m =>
      cases m with
      | peer i => rfl
      | fd i =>
          cases place with
          | map m => simp only [slot, entries_setTag, mapSlot_setTag]
          | _ => rw [setTag_frame]; rfl
  | _ => cases place <;> rfl

theorem Gpg.tagOf_setTag (taggable : gpg.Taggable s)
    : (gpg.setTag tag s).tagOf = Function.update gpg.tagOf s tag := by
  funext place
  rw [Function.update_apply]
  cases s with
  | map m =>
      cases m with
      | peer i => exact taggable.elim
      | fd i =>
          cases place with
          | map m =>
              simp only [tagOf, entries_setTag, mapTag_setTag taggable, Function.update_apply,
                Slot.map.injEq]
          | _ => rw [setTag_frame]; rfl
  | statusRead => cases place <;> simp [setTag, tagOf]
  | colonRead => cases place <;> simp [setTag, tagOf]
  | _ => exact taggable.elim

theorem Gpg.alike_setTag : gpg.Alike (gpg.setTag tag s) := by
  cases s with
  | map m =>
      cases m with
      | peer i => exact .refl gpg
      | fd i =>
          rw [setTag_frame]
          exact ⟨rfl, rfl, rfl, rfl, rfl⟩
  | _ => exact ⟨rfl, rfl, rfl, rfl, rfl⟩

theorem Gpg.length_setTag
    : (gpg.setTag tag s).fdDataMap.entries.length = gpg.fdDataMap.entries.length := by
  cases s with
  | map m =>
      cases m with
      | peer i => rfl
      | fd i => rw [entries_setTag, length_setMapTag]
  | _ => rfl

theorem Gpg.inbound_setTag (i : Nat) : (gpg.setTag tag s).inbound i = gpg.inbound i := by
  cases s with
  | map m =>
      cases m with
      | peer j => rfl
      | fd j =>
          unfold inbound
          rw [entries_setTag]
          exact inbound_modify (fun _ => rfl)
  | _ => rfl

theorem Gpg.pointer_setTag (pointer : gpg.fdDataMap ≠ .freed)
    : (gpg.setTag tag s).fdDataMap ≠ .freed := by
  cases s with
  | map m =>
      cases m with
      | peer i => exact pointer
      | fd i => exact pointer_modifyMap pointer
  | _ => exact pointer

section Register

variable {add : AddAnswers} {cb : IoCb Handler}

theorem World.addIoCb_world
    : (w.addIoCb add cb s).2 = {
        w with
        io := (w.io.add add cb (w.gpg.tagOf s)).2
        gpg := w.gpg.setTag (w.io.add add cb (w.gpg.tagOf s)).1.2 s } :=
  rfl

theorem World.addIoCb_kept (kept : w.Kept lost) : (w.addIoCb add cb s).2.Kept lost := by
  rw [addIoCb_world]
  refine ⟨kept.holds.congr (fun place => congrFun Gpg.slot_setTag place), ?_,
    Gpg.pointer_setTag kept.pointer, kept.use, ?_⟩
  · intro place fd found
    dsimp only at found
    rw [Gpg.slot_setTag] at found
    exact kept.notified place fd found
  · intro held
    have same
        : (w.gpg.setTag (w.io.add add cb (w.gpg.tagOf s)).1.2 s).slot .cmd = w.gpg.slot .cmd :=
      congrFun Gpg.slot_setTag .cmd
    dsimp only
    rw [Gpg.alike_setTag.used]
    apply kept.parked
    intro empty
    exact held (same.trans empty)

/-- What neither a registration nor a move of a descriptor changes. -/
structure World.Framed (w next : World) : Prop where
  alike : w.gpg.Alike next.gpg
  length : next.gpg.fdDataMap.entries.length = w.gpg.fdDataMap.entries.length
  user : next.io.user = w.io.user
  waiting : next.waiting = w.waiting
  asked : next.asked = w.asked
  calls : next.calls = w.calls
  ends : next.ends = w.ends

theorem World.Framed.refl (w : World) : w.Framed w := ⟨.refl w.gpg, rfl, rfl, rfl, rfl, rfl, rfl⟩

theorem World.Framed.trans {last : World} (first : w.Framed next) (second : next.Framed last)
    : w.Framed last :=
  ⟨first.alike.trans second.alike, second.length.trans first.length,
    second.user.trans first.user, second.waiting.trans first.waiting,
    second.asked.trans first.asked, second.calls.trans first.calls, second.ends.trans first.ends⟩

theorem World.addIoCb_framed : w.Framed (w.addIoCb add cb s).2 :=
  ⟨Gpg.alike_setTag, Gpg.length_setTag, IoTags.user_add, rfl, rfl, rfl, rfl⟩

theorem World.addIoCb_slot : (w.addIoCb add cb s).2.gpg.slot = w.gpg.slot := Gpg.slot_setTag

theorem World.addIoCb_inbound (i : Nat)
    : (w.addIoCb add cb s).2.gpg.inbound i = w.gpg.inbound i :=
  Gpg.inbound_setTag i

theorem World.addIoCb_tagOf {place : Slot} (taggable : w.gpg.Taggable s) (other : place ≠ s)
    : (w.addIoCb add cb s).2.gpg.tagOf place = w.gpg.tagOf place := by
  rw [addIoCb_world]
  dsimp only
  rw [Gpg.tagOf_setTag taggable, Function.update_of_ne other]

theorem World.addIoCb_willing (added : (w.addIoCb add cb s).1 = true) (user : w.io.user = true)
    : add.app = true := by
  have both
      : ((w.io.add add cb (w.gpg.tagOf s)).1.1 && (cb.dir != 0 || add.nonblocking)) = true :=
    added
  exact IoTags.add_willing (Bool.and_eq_true_iff.mp both).1 user

theorem World.addIoCb_paired (paired : w.Paired) (taggable : w.gpg.Taggable s)
    (held : w.gpg.slot s = some fd) (untagged : w.gpg.tagOf s = none)
    (willing : w.io.user = true → add.table = true → add.app = true)
    : (w.addIoCb add (w.gpg.cb s fd) s).2.Paired := by
  have slots : (w.addIoCb add (w.gpg.cb s fd) s).2.gpg.slot = w.gpg.slot := addIoCb_slot
  have cbs : (w.addIoCb add (w.gpg.cb s fd) s).2.gpg.cb = w.gpg.cb :=
    Gpg.cb_congr addIoCb_framed.alike addIoCb_inbound
  unfold World.Paired
  rw [slots, cbs, addIoCb_world]
  dsimp only
  rw [Gpg.tagOf_setTag taggable]
  cases table : add.table with
  | false =>
      rw [IoTags.add_refused table]
      dsimp only
      rw [Function.update_eq_self]
      exact paired
  | true =>
      rw [IoTags.add_accepted ⟨table, fun user => willing user table⟩]
      have added := IoTags.Paired.added paired fd (Or.inr untagged)
      rw [← held, Function.update_eq_self] at added
      exact added

end Register

-----------------------------------------------------------------------------------------
-- Parking
-----------------------------------------------------------------------------------------

variable {idx : Nat}

theorem World.park_slot (w : World) (idx : Nat)
    : (w.park idx).gpg.slot
      = Function.update (Function.update w.gpg.slot (.map (.fd idx)) none) .cmd
          (w.gpg.slot (.map (.fd idx))) := by
  have cleared : (w.gpg.clear (.map (.fd idx))).slot
      = Function.update w.gpg.slot (.map (.fd idx)) none :=
    Gpg.slot_clear
  rw [← cleared]
  funext place
  rw [Function.update_apply]
  cases place <;> rfl

theorem World.park_tagOf (w : World) (idx : Nat) : (w.park idx).gpg.tagOf = w.gpg.tagOf := by
  have cleared : (w.gpg.clear (.map (.fd idx))).tagOf = w.gpg.tagOf := Gpg.tagOf_clear
  rw [← cleared]
  funext place
  cases place <;> rfl

theorem World.park_inbound (w : World) (idx i : Nat)
    : (w.park idx).gpg.inbound i = w.gpg.inbound i :=
  Gpg.inbound_clear (s := .map (.fd idx)) i

theorem World.park_framed (w : World) (idx : Nat) : w.Framed (w.park idx) := by
  have alike : w.gpg.Alike (w.gpg.clear (.map (.fd idx))) := Gpg.alike_clear
  exact ⟨⟨alike.used, alike.idx, alike.code, alike.keyword, alike.colonFnc⟩,
    Gpg.length_clear (s := .map (.fd idx)), rfl, rfl, rfl, rfl, rfl⟩

theorem World.park_kept (kept : w.Kept lost) (used : w.gpg.cmd.used = true)
    (empty : w.gpg.cmd.fd = none) {fd : Nat} (held : w.gpg.slot (.map (.fd idx)) = some fd)
    : (w.park idx).Kept lost := by
  have slots := w.park_slot idx
  rw [held] at slots
  refine ⟨?_, ?_, ?_, kept.use, ?_⟩
  · rw [slots]
    have emptySlot : w.gpg.slot .cmd = none := empty
    exact kept.holds.move emptySlot held
  · intro place number found
    rw [slots, Function.update_apply, Function.update_apply] at found
    split at found
    · cases found
      exact kept.notified _ fd held
    · split at found
      · cases found
      · exact kept.notified place number found
  · exact Gpg.pointer_clear (s := .map (.fd idx)) kept.pointer
  · intro _
    rw [(w.park_framed idx).alike.used]
    exact used

theorem World.park_paired (paired : w.Paired) (untagged : w.gpg.tagOf (.map (.fd idx)) = none)
    : (w.park idx).Paired := by
  have cbs : (w.park idx).gpg.cb = w.gpg.cb :=
    Gpg.cb_congr (w.park_framed idx).alike (w.park_inbound idx)
  unfold World.Paired
  rw [w.park_slot, w.park_tagOf, cbs]
  exact (paired.untagged untagged none).untagged (s := .cmd) rfl _

-----------------------------------------------------------------------------------------
-- The loop over the table
-----------------------------------------------------------------------------------------

/-- Nobody refuses a registration that he is asked for. -/
def StartAnswers.Willing (answers : StartAnswers) (w : World) : Prop :=
  w.io.user = true → ∀ s, (answers.add s).table = true → (answers.add s).app = true

/-- The command descriptor waits in the member `cmd`. -/
structure Gpg.Parked (gpg : Gpg) (i : Nat) : Prop where
  idx : gpg.cmd.idx = some i
  inside : i < gpg.fdDataMap.entries.length
  empty : gpg.slot (.map (.fd i)) = none
  held : gpg.cmd.fd ≠ none

/-- The engine when a part of the table is registered. -/
structure World.Registering (answers : StartAnswers) (built : World) (done : List Nat) (w : World)
    : Prop where
  kept : w.Kept ∅
  framed : built.Framed w
  paired : w.Paired
  untagged : ∀ i, i ∉ done → w.gpg.tagOf (.map (.fd i)) = none
  filled
    : ∀ i, i ∉ done → i < w.gpg.fdDataMap.entries.length → w.gpg.slot (.map (.fd i)) ≠ none
  parked
    : ∀ idx, w.gpg.cmd.used = true → w.gpg.cmd.idx = some idx → idx ∈ done → w.gpg.Parked idx
  free
    : (∀ idx, w.gpg.cmd.used = true → w.gpg.cmd.idx = some idx → idx ∉ done)
      → w.gpg.cmd.fd = none

/-- How `start` leaves the engine when a registration fails. -/
def Broken (answers : StartAnswers) (built failed : World) : Prop :=
  failed.Kept ∅ ∧ built.Framed failed ∧ (answers.Willing built → failed.Paired)

theorem checked_ends {result : Bool × World} {post failed : World → Prop}
    (succeeds : result.1 = true → post result.2) (fails : failed result.2)
    : Ends (World.checked result) post failed := by
  obtain ⟨fine, next⟩ := result
  cases fine with
  | true => exact succeeds rfl
  | false => exact fails

theorem register_ends {built : World} {add : AddAnswers} {s : Slot} {fd : Nat}
    (kept : w.Kept ∅) (framed : built.Framed w) (paired : w.Paired)
    (held : w.gpg.slot s = some fd) (untagged : w.gpg.tagOf s = none)
    (taggable : w.gpg.Taggable s)
    (willing : answers.Willing built → built.io.user = true → add.table = true → add.app = true)
    : Ends (World.checked (w.addIoCb add (w.gpg.cb s fd) s))
        (fun next =>
          next.Kept ∅
          ∧ w.Framed next
          ∧ next.Paired
          ∧ next.gpg.slot = w.gpg.slot
          ∧ ∀ place, place ≠ s → next.gpg.tagOf place = w.gpg.tagOf place)
        (Broken answers built) := by
  have keptNext : (w.addIoCb add (w.gpg.cb s fd) s).2.Kept ∅ := World.addIoCb_kept kept
  have framedNext : w.Framed (w.addIoCb add (w.gpg.cb s fd) s).2 := World.addIoCb_framed
  refine checked_ends ?_ ⟨keptNext, framed.trans framedNext, ?_⟩
  · intro added
    have pairedNext : (w.addIoCb add (w.gpg.cb s fd) s).2.Paired :=
      World.addIoCb_paired paired taggable held untagged
        (fun user _ => World.addIoCb_willing added user)
    exact ⟨keptNext, framedNext, pairedNext, World.addIoCb_slot,
      fun place other => World.addIoCb_tagOf taggable other⟩
  · intro all
    refine World.addIoCb_paired paired taggable held untagged ?_
    intro user
    rw [framed.user] at user
    exact willing all user

theorem registerEntry_ends {built : World} {done : List Nat} {i : Nat}
    (registering : World.Registering answers built done w) (fresh : i ∉ done)
    (inside : i < w.gpg.fdDataMap.entries.length)
    : Ends (w.registerEntry answers i)
        (World.Registering answers built (done ++ [i]))
        (Broken answers built) := by
  obtain ⟨fd, held⟩ := Option.ne_none_iff_exists'.mp (registering.filled i fresh inside)
  have apart (j : Nat) (later : j ∉ done ++ [i]) : j ∉ done ∧ j ≠ i := by
    simpa using later
  unfold World.registerEntry
  dsimp only
  split
  · next isCommand =>
      obtain ⟨used, idx⟩ := isCommand
      have framed := w.park_framed i
      have only (j : Nat) (same : w.gpg.cmd.idx = some j) : j = i := by
        rw [idx] at same
        cases same
        rfl
      have empty : w.gpg.cmd.fd = none := by
        apply registering.free
        intro j _ same
        rw [only j same]
        exact fresh
      have slots := w.park_slot i
      refine ⟨World.park_kept registering.kept used empty held, registering.framed.trans framed,
        ?_, ?_, ?_, ?_, ?_⟩
      · exact World.park_paired registering.paired (registering.untagged i fresh)
      · intro j later
        rw [w.park_tagOf]
        exact registering.untagged j (apart j later).1
      · intro j later inside'
        obtain ⟨notDone, other⟩ := apart j later
        rw [slots]
        simp only [Function.update_apply, reduceCtorEq, if_false, Slot.map.injEq,
          MapSlot.fd.injEq, other]
        rw [framed.length] at inside'
        exact registering.filled j notDone inside'
      · intro j _ same _
        rw [framed.alike.idx] at same
        rw [only j same]
        refine ⟨framed.alike.idx.trans idx, ?_, ?_, ?_⟩
        · rw [framed.length]
          exact inside
        · rw [slots]
          simp
        · have parked : (w.park i).gpg.slot .cmd = some fd := by
            rw [slots, Function.update_self, held]
          intro vacant
          exact Option.some_ne_none fd (parked.symm.trans vacant)
      · intro none
        have notDone := none i (by rw [framed.alike.used, used]) (by rw [framed.alike.idx, idx])
        exact (notDone (by simp)).elim
  · next other =>
      have cb
          : ({ fd := w.gpg.slot (.map (.fd i)), dir := (w.gpg.inbound i).toNat, handler := .data }
              : IoCb Handler)
            = w.gpg.cb (.map (.fd i)) fd := by
        unfold Gpg.cb
        dsimp only
        rw [if_neg other, held]
      rw [cb]
      have before (j : Nat) (isCommand : w.gpg.cmd.idx = some j) (used : w.gpg.cmd.used = true)
          : j ≠ i := by
        rintro rfl
        exact other ⟨used, isCommand⟩
      refine (register_ends registering.kept registering.framed registering.paired held
        (registering.untagged i fresh) inside (fun willing user => willing user _)).imp ?_
        (fun _ broken => broken)
      intro next registered
      obtain ⟨kept, framed, paired, slots, tags⟩ := registered
      refine ⟨kept, registering.framed.trans framed, paired, ?_, ?_, ?_, ?_⟩
      · intro j later
        obtain ⟨notDone, different⟩ := apart j later
        rw [tags _ (by simpa using different)]
        exact registering.untagged j notDone
      · intro j later inside'
        rw [slots]
        rw [framed.length] at inside'
        exact registering.filled j (apart j later).1 inside'
      · intro j used idx member
        rw [framed.alike.used] at used
        rw [framed.alike.idx] at idx
        have done' : j ∈ done := by
          rcases List.mem_append.mp member with earlier | now
          · exact earlier
          · exact (before j idx used (List.mem_singleton.mp now)).elim
        have parked := registering.parked j used idx done'
        refine ⟨framed.alike.idx.trans parked.idx, ?_, ?_, ?_⟩
        · rw [framed.length]
          exact parked.inside
        · rw [slots]
          exact parked.empty
        · have same := congrFun slots .cmd
          intro none
          exact parked.held (same.symm.trans none)
      · intro none
        have same := congrFun slots .cmd
        refine Eq.trans same (registering.free ?_)
        intro j used idx member
        exact none j (by rw [framed.alike.used, used]) (by rw [framed.alike.idx, idx])
          (List.mem_append_left _ member)

/-- The engine for which the registrations are made. -/
structure World.Unregistered (w : World) : Prop where
  kept : w.Kept ∅
  paired : w.Paired
  untagged : w.gpg.Untagged
  fd : w.gpg.cmd.fd = none
  statusRead : w.gpg.statusRead ≠ none
  colonRead : w.gpg.colonFnc = true → w.gpg.colonRead ≠ none
  filled : ∀ i < w.gpg.fdDataMap.entries.length, w.gpg.slot (.map (.fd i)) ≠ none
  inside
    : ∀ idx,
        w.gpg.cmd.used = true
        → w.gpg.cmd.idx = some idx
        → idx < w.gpg.fdDataMap.entries.length

/-- The engine after `start`, with the command descriptor parked if there is one. -/
structure World.Started (answers : StartAnswers) (built w : World) : Prop where
  kept : w.Kept ∅
  framed : built.Framed w
  paired : w.Paired
  parked : ∀ idx, w.gpg.cmd.used = true → w.gpg.cmd.idx = some idx → w.gpg.Parked idx

/-- The part of the engine that the loop over the table starts from. -/
structure World.Opened (answers : StartAnswers) (built w : World) : Prop where
  kept : w.Kept ∅
  framed : built.Framed w
  paired : w.Paired
  slots : w.gpg.slot = built.gpg.slot
  untagged : ∀ s, s ≠ .statusRead → s ≠ .colonRead → w.gpg.tagOf s = none

theorem registerStatus_ends (plain : w.Unregistered)
    : Ends
        (World.checked (w.addIoCb (answers.add .statusRead)
          { fd := w.gpg.statusRead, dir := 1, handler := .status } .statusRead))
        (fun next => World.Opened answers w next ∧ next.gpg.tagOf .colonRead = none)
        (Broken answers w) := by
  obtain ⟨fd, found⟩ := Option.ne_none_iff_exists'.mp plain.statusRead
  have held : w.gpg.slot .statusRead = some fd := found
  have cb
      : ({ fd := w.gpg.statusRead, dir := 1, handler := .status } : IoCb Handler)
        = w.gpg.cb .statusRead fd := by
    unfold Gpg.cb
    rw [found]
  rw [cb]
  refine (register_ends plain.kept (.refl w) plain.paired held
    (plain.untagged .statusRead) trivial (fun willing user => willing user _)).imp ?_
    (fun _ broken => broken)
  intro next registered
  obtain ⟨kept, framed, paired, slots, tags⟩ := registered
  refine ⟨⟨kept, framed, paired, slots, ?_⟩, ?_⟩
  · intro s notStatus _
    rw [tags s notStatus, plain.untagged]
  · rw [tags _ (by simp), plain.untagged]

theorem registerColon_ends (plain : w.Unregistered) (opened : World.Opened answers w next)
    (untagged : next.gpg.tagOf .colonRead = none)
    : Ends (next.registerColon answers) (World.Opened answers w) (Broken answers w) := by
  unfold World.registerColon
  split
  · next fnc =>
      have used : w.gpg.colonFnc = true := by
        rw [← opened.framed.alike.colonFnc, fnc]
      obtain ⟨fd, before⟩ := Option.ne_none_iff_exists'.mp (plain.colonRead used)
      have held : next.gpg.slot .colonRead = some fd := by
        rw [opened.slots]
        exact before
      have cb
          : ({ fd := next.gpg.colonRead, dir := 1, handler := .colon } : IoCb Handler)
            = next.gpg.cb .colonRead fd := by
        unfold Gpg.cb
        rw [show next.gpg.colonRead = some fd from held]
      rw [cb]
      refine (register_ends opened.kept opened.framed opened.paired held untagged trivial
        (fun willing user => willing user _)).imp ?_ (fun _ broken => broken)
      intro last registered
      obtain ⟨kept, framed, paired, slots, tags⟩ := registered
      refine ⟨kept, opened.framed.trans framed, paired, slots.trans opened.slots, ?_⟩
      intro s notStatus notColon
      rw [tags s notColon, opened.untagged s notStatus notColon]
  · exact opened

theorem registerAll_ends (plain : w.Unregistered)
    : Ends (w.registerAll answers) (World.Started answers w) (Broken answers w) := by
  unfold World.registerAll
  refine (registerStatus_ends plain).bind ?_
  intro first opened
  refine (registerColon_ends plain opened.1 opened.2).bind ?_
  intro second opened'
  have start : World.Registering answers w [] second := by
    refine ⟨opened'.kept, opened'.framed, opened'.paired, ?_, ?_, nofun, ?_⟩
    · intro i _
      exact opened'.untagged _ (by simp) (by simp)
    · intro i _ inside
      rw [opened'.slots]
      rw [opened'.framed.length] at inside
      exact plain.filled i inside
    · intro _
      exact (congrFun opened'.slots .cmd).trans plain.fd
  have loop
      : Ends
          ((List.range second.gpg.fdDataMap.entries.length).foldlM
            (fun w i => w.registerEntry answers i) second)
          (World.Registering answers w (List.range second.gpg.fdDataMap.entries.length))
          (Broken answers w) := by
    refine Ends.foldlM start ?_
    intro done i rest w' whole registering
    have nodup : (done ++ i :: rest).Nodup := whole ▸ List.nodup_range
    have fresh : i ∉ done := by
      intro member
      exact (List.disjoint_of_nodup_append nodup) member (by simp)
    have inside : i < w'.gpg.fdDataMap.entries.length := by
      have member : i ∈ List.range second.gpg.fdDataMap.entries.length := by
        rw [whole]
        simp
      rw [registering.framed.length, ← opened'.framed.length]
      exact List.mem_range.mp member
    exact registerEntry_ends registering fresh inside
  refine loop.imp ?_ (fun _ broken => broken)
  intro last registering
  refine ⟨registering.kept, registering.framed, registering.paired, ?_⟩
  intro idx used place
  apply registering.parked idx used place
  rw [List.mem_range, opened'.framed.length]
  apply plain.inside idx
  · rw [← registering.framed.alike.used, used]
  · rw [← registering.framed.alike.idx, place]

-----------------------------------------------------------------------------------------
-- The descriptors of the child
-----------------------------------------------------------------------------------------

/-- The fields whose descriptors the child gets. -/
def World.childSlots (w : World) : List Slot :=
  [.statusWrite]
  ++ (if w.gpg.colonFnc then [.colonWrite] else [])
  ++ (List.range w.gpg.fdDataMap.entries.length).map (fun i => .map (.peer i))

theorem World.fdList_eq (w : World)
    : w.fdList = ((w.childSlots.map w.gpg.slot).takeWhile Option.isSome).reduceOption := by
  have peers
      : (List.range w.gpg.fdDataMap.entries.length).map (fun i => w.gpg.slot (.map (.peer i)))
        = w.gpg.fdDataMap.entries.map PipeEntry.peerFd :=
    map_range_getElem? w.gpg.fdDataMap.entries PipeEntry.peerFd
  unfold fdList childSlots
  simp only [List.map_append, List.map_map, Function.comp_def, peers]
  cases w.gpg.colonFnc <;> rfl

theorem World.nodup_childSlots (w : World) : w.childSlots.Nodup := by
  have peers
      : ((List.range w.gpg.fdDataMap.entries.length).map
          (fun i => Slot.map (.peer i))).Nodup := by
    refine List.nodup_range.map ?_
    intro i j same
    simpa using same
  unfold childSlots
  cases w.gpg.colonFnc <;> simp [peers]

theorem World.closeSlot_of_held {fd : Nat} (held : w.gpg.slot s = some fd)
    : w.closeSlot s = w.ioClose fd := by
  unfold closeSlot
  rw [held]

theorem World.closeChild_spec (kept : w.Kept lost)
    (filled : ∀ s ∈ w.childSlots, w.gpg.slot s ≠ none)
    : (w.fdList.foldl ioClose w).Kept lost
      ∧ (∀ s,
          (w.fdList.foldl ioClose w).gpg.slot s
          = if s ∈ w.childSlots then none else w.gpg.slot s)
      ∧ w.Closes (w.fdList.foldl ioClose w) := by
  have same : w.fdList.foldl ioClose w = w.childSlots.foldl closeSlot w := by
    rw [fdList_eq]
    refine PipeEnds.foldl_numbers (fun w : World => w.gpg.slot) ioClose closeSlot (Kept lost) ?_
      (fun _ _ _ held => closeSlot_of_held held) w.nodup_childSlots kept filled
    intro state s before
    obtain ⟨keptNext, slots, _⟩ := closeSlot_spec (s := s) before
    exact ⟨keptNext, slots⟩
  rw [same]
  exact closeSlots_spec kept w.childSlots

end Gpgme.Lifecycle
