import Gpgme.EngineGpg.Ownership
import Gpgme.Lib.Fallible

/-! What `start` does to the descriptors: where it stops, and which pipes are lost then. -/

namespace Gpgme.Lifecycle

open CString Fallible

variable {w next : World} {lost : Set Nat} {s t : Slot} {answers : StartAnswers}
  {options : EngineGpg}

-----------------------------------------------------------------------------------------
-- New pipes
-----------------------------------------------------------------------------------------

theorem World.Kept.pipe (kept : w.Kept lost) {gpg : Gpg} (apart : s ≠ t)
    (emptyFirst : w.gpg.slot s = none) (emptySecond : w.gpg.slot t = none)
    (slots
      : gpg.slot
        = Function.update (Function.update w.gpg.slot s (some w.pipe.1.1)) t
            (some w.pipe.1.2))
    (pointer : gpg.fdDataMap ≠ .freed) (parked : gpg.cmd.fd ≠ none → gpg.cmd.used = true)
    : { w.pipe.2 with gpg }.Kept lost := by
  refine ⟨?_, ?_, pointer, kept.use, parked⟩
  · have first := kept.holds.openEnd emptyFirst
    have second := first.openEnd (s := t) (by rw [Function.update_of_ne apart.symm, emptySecond])
    exact second.congr (fun place => congrFun slots place)
  · intro place fd found
    dsimp only at found
    rw [slots] at found
    unfold World.pipe
    dsimp only
    rw [Function.update_apply, Function.update_apply]
    rw [Function.update_apply, Function.update_apply] at found
    split
    · rfl
    · next notSecond =>
        split
        · rfl
        · next notFirst =>
            split at found
            · cases found
              exact (notSecond rfl).elim
            · split at found
              · cases found
                exact (notFirst rfl).elim
              · exact kept.notified place fd found

-----------------------------------------------------------------------------------------
-- The engine before the start
-----------------------------------------------------------------------------------------

/-- No field next to a descriptor has a tag. -/
def Gpg.Untagged (gpg : Gpg) : Prop := ∀ s, gpg.tagOf s = none

/-- The state in which `start` is called. -/
structure World.Ready (p : Prepared) (w : World) : Prop where
  kept : w.Kept ∅
  paired : w.Paired
  untagged : w.gpg.Untagged
  null : w.gpg.fdDataMap = .null
  used : w.gpg.cmd.used = p.options.cmdUsed
  fd : w.gpg.cmd.fd = none
  statusWrite : w.gpg.statusWrite ≠ none
  statusRead : w.gpg.statusRead ≠ none
  colonWrite : w.gpg.colonFnc = true → w.gpg.colonWrite ≠ none
  colonRead : w.gpg.colonFnc = true → w.gpg.colonRead ≠ none
  waiting : w.waiting = false
  asked : w.asked = []
  calls : w.calls = []

theorem paired_of_untagged {user : Bool} (io : w.io = { user }) (untagged : w.gpg.Untagged)
    : w.Paired := by
  unfold World.Paired
  rw [io]
  exact IoTags.paired_initial user untagged

theorem World.slot_openStatus
    : w.openStatus.gpg.slot
      = Function.update (Function.update w.gpg.slot .statusRead (some w.pipe.1.1)) .statusWrite
          (some w.pipe.1.2) := by
  funext s
  cases s <;> rfl

theorem World.slot_setColonLineHandler
    : w.setColonLineHandler.gpg.slot
      = Function.update (Function.update w.gpg.slot .colonRead (some w.pipe.1.1)) .colonWrite
          (some w.pipe.1.2) := by
  funext s
  cases s <;> rfl

/-- The engine when it is made, before it has opened anything. -/
def World.new (user : Bool) (others : Descriptors Unit) (used : Bool) : World :=
  { ends := .inherit others, io := { user }, gpg := { cmd := { used } } }

theorem World.new_empty (user : Bool) (others : Descriptors Unit) (used : Bool)
    : ∀ s, (new user others used).gpg.slot s = none := by
  intro s
  cases s with
  | map m => exact mapSlot_outside (Nat.zero_le _)
  | _ => rfl

theorem World.new_kept (user : Bool) (others : Descriptors Unit) (used : Bool)
    : (new user others used).Kept ∅ := by
  have empty := new_empty user others used
  refine ⟨PipeEnds.holds_inherit others empty, ?_, nofun, rfl, fun held => (held rfl).elim⟩
  intro s fd found
  rw [empty] at found
  cases found

theorem World.prepared_ready (user : Bool) (others : Descriptors Unit) (p : Prepared)
    : (prepared user others p).Ready p := by
  have noTag (m : MapSlot) : mapTag [] m = none := by cases m <;> rfl
  have empty := new_empty user others p.options.cmdUsed
  have status : (new user others p.options.cmdUsed).openStatus.Kept ∅ :=
    (new_kept user others p.options.cmdUsed).pipe (s := .statusRead) (t := .statusWrite) nofun
      (empty .statusRead) (empty .statusWrite) slot_openStatus nofun
      (fun held => (held rfl).elim)
  cases colon : p.colon with
  | false =>
      have same : prepared user others p = (new user others p.options.cmdUsed).openStatus := by
        simp only [prepared, colon, Bool.false_eq_true, if_false]
        rfl
      rw [same]
      have untagged : (new user others p.options.cmdUsed).openStatus.gpg.Untagged := by
        intro s
        cases s with
        | map m => exact noTag m
        | _ => rfl
      exact ⟨status, paired_of_untagged rfl untagged, untagged, rfl, rfl, rfl, nofun, nofun, nofun,
        nofun, rfl, rfl, rfl⟩
  | true =>
      have same : prepared user others p
          = (new user others p.options.cmdUsed).openStatus.setColonLineHandler := by
        simp only [prepared, colon, if_true]
        rfl
      rw [same]
      have kept := status.pipe (s := .colonRead) (t := .colonWrite) nofun rfl rfl
        slot_setColonLineHandler nofun (fun held => (held rfl).elim)
      have untagged
          : (new user others p.options.cmdUsed).openStatus.setColonLineHandler.gpg.Untagged := by
        intro s
        cases s with
        | map m => exact noTag m
        | _ => rfl
      exact ⟨kept, paired_of_untagged rfl untagged, untagged, rfl, rfl, rfl, nofun, nofun, nofun,
        nofun, rfl, rfl, rfl⟩

-----------------------------------------------------------------------------------------
-- The second pass of `build_argv`
-----------------------------------------------------------------------------------------

/-- The calls of the second pass that can fail: the memory for an argument, and a pipe. -/
inductive Point where
  | text (argc : Nat)
  | pipe (datac : Nat)
deriving DecidableEq

def StartAnswers.succeeds (answers : StartAnswers) : Point → Bool
  | .text argc => answers.textMemory argc
  | .pipe datac => answers.pipe datac

/-- The calls for an entry of the argument list. -/
def argPoints (argc datac : Nat) : ArgAndData → List Point
  | .arg _ _ => [.text argc]
  | .data _ _ dupTo _ => .pipe datac :: if dupTo = -1 then [.text argc] else []

/-- The calls for the argument list, in their order. -/
def points (argc datac : Nat) : List ArgAndData → List Point
  | [] => []
  | a :: rest =>
      argPoints argc datac a ++ points (argc + a.takesSlot.toNat) (datac + a.isData.toNat) rest

theorem points_append (argc datac : Nat) (done rest : List ArgAndData)
    : points argc datac (done ++ rest)
      = points argc datac done
        ++ points (argc + done.countP ArgAndData.takesSlot)
            (datac + done.countP ArgAndData.isData) rest := by
  induction done generalizing argc datac with
  | nil => rfl
  | cons a done ih =>
      rw [List.cons_append, points, ih, points, List.append_assoc]
      have count (p : ArgAndData → Bool) (n : Nat)
          : n + (p a).toNat + done.countP p = n + (a :: done).countP p := by
        rw [List.countP_cons]
        cases p a with
        | true => simp only [Bool.toNat_true, if_true]; omega
        | false => simp
      rw [count, count]

/-- The table that is being filled, stored in the engine. -/
def Building.stored (b : Building) : World :=
  { b.world with gpg := { b.world.gpg with fdDataMap := .table b.entries } }

/-- The descriptors of the entries. -/
def Building.opened (b : Building) : Set Nat :=
  {fd | ∃ m, mapSlot b.entries m = some fd}

/-- What is left of the engine while the table is filled: its fields are as before, up to the
index of the command descriptor, and each entry holds the two ends of its pipe.
-/
structure Building.From (w : World) (b : Building) : Prop where
  kept : b.stored.Kept ∅
  gpg : b.world.gpg = { w.gpg with cmd := { w.gpg.cmd with idx := b.world.gpg.cmd.idx } }
  io : b.world.io = w.io
  waiting : b.world.waiting = w.waiting
  asked : b.world.asked = w.asked
  calls : b.world.calls = w.calls
  filled : ∀ entry ∈ b.entries, entry.fd ≠ none ∧ entry.peerFd ≠ none ∧ entry.tag = none

variable {b : Building}

def Slot.isMap : Slot → Bool
  | .map _ => true
  | .statusRead | .statusWrite | .colonRead | .colonWrite | .cmd => false

theorem Building.From.lose (started : b.From w) (null : w.gpg.fdDataMap = .null)
    : b.world.Kept b.opened := by
  have pointer : b.world.gpg.fdDataMap = .null := by
    rw [started.gpg, ← null]
  have left (s : Slot)
      : b.world.gpg.slot s = if s.isMap = true then none else b.stored.gpg.slot s := by
    cases s with
    | map m =>
        simp only [Slot.isMap, if_true, Gpg.slot, pointer]
        exact mapSlot_outside (Nat.zero_le _)
    | _ => rfl
  have lostFields
      : {fd | ∃ s : Slot, s.isMap = true ∧ b.stored.gpg.slot s = some fd} ∪ ∅ = b.opened := by
    rw [Set.union_empty]
    ext fd
    constructor
    · intro member
      obtain ⟨s, isMap, found⟩ := member
      cases s with
      | map m => exact ⟨m, found⟩
      | _ => cases isMap
    · intro member
      obtain ⟨m, found⟩ := member
      exact ⟨.map m, rfl, found⟩
  have kept := started.kept
  refine ⟨?_, ?_, by simp [pointer], kept.use, kept.parked⟩
  · rw [← lostFields]
    exact kept.holds.abandon (fun s => s.isMap = true) left
  · intro s fd found
    rw [left] at found
    split at found
    · cases found
    · exact kept.notified s fd found

theorem Building.From.opened_eq_empty (started : b.From w) : b.opened = ∅ ↔ b.entries = [] := by
  constructor
  · intro none
    cases entries : b.entries with
    | nil => rfl
    | cons entry rest =>
        obtain ⟨fd, held⟩ := Option.ne_none_iff_exists'.mp
          (started.filled entry (by simp [entries])).1
        have member : fd ∈ b.opened := ⟨.fd 0, by simp [mapSlot, entries, held]⟩
        rw [none] at member
        exact member.elim
  · intro none
    rw [Set.eq_empty_iff_forall_notMem]
    intro fd member
    obtain ⟨m, found⟩ := member
    rw [none, mapSlot_outside (Nat.zero_le _)] at found
    cases found

/-- The table with an entry for a new pipe. -/
def Building.withPipe (b : Building) (data : Nat) (inbound : Bool) (dupTo : Int) (cmd : Command)
    : Building :=
  { b with
    world := { b.world.pipe.2 with gpg := { b.world.pipe.2.gpg with cmd } }
    entries :=
      b.entries ++ [{
        data, inbound, dupTo
        fd := some (if inbound then b.world.pipe.1.1 else b.world.pipe.1.2)
        peerFd := some (if inbound then b.world.pipe.1.2 else b.world.pipe.1.1) }] }

theorem Building.withPipe_kept (kept : b.stored.Kept ∅) (data : Nat) (inbound : Bool) (dupTo : Int)
    {cmd : Command} (fd : cmd.fd = b.world.gpg.cmd.fd) (used : cmd.used = b.world.gpg.cmd.used)
    : (b.withPipe data inbound dupTo cmd).stored.Kept ∅ := by
  have outside (m : MapSlot) (index : m.index = b.entries.length)
      : b.stored.gpg.slot (.map m) = none :=
    mapSlot_outside index.ge
  have parked (held : cmd.fd ≠ none) : cmd.used = true := by
    rw [used]
    apply kept.parked
    rw [fd] at held
    exact held
  cases inbound with
  | true =>
      refine kept.pipe (s := .map (.fd b.entries.length)) (t := .map (.peer b.entries.length))
        (by simp) (outside _ rfl) (outside _ rfl) ?_ (by simp [withPipe]) parked
      funext s
      cases s with
      | map m =>
          simp only [Gpg.slot, stored, withPipe, MapPointer.entries, mapSlot_snoc,
            Function.update_apply, Slot.map.injEq, if_true]
          rfl
      | cmd => exact fd
      | _ => rfl
  | false =>
      refine kept.pipe (s := .map (.peer b.entries.length)) (t := .map (.fd b.entries.length))
        (by simp) (outside _ rfl) (outside _ rfl) ?_ (by simp [withPipe]) parked
      funext s
      cases s with
      | map m =>
          simp only [Gpg.slot, stored, withPipe, MapPointer.entries, mapSlot_snoc,
            Function.update_apply, Slot.map.injEq, Bool.false_eq_true, if_false]
          cases m <;> simp <;> rfl
      | cmd => exact fd
      | _ => rfl

theorem Building.From.withPipe (started : b.From w) (data : Nat) (inbound : Bool) (dupTo : Int)
    {cmd : Command} (same : cmd = { b.world.gpg.cmd with idx := cmd.idx })
    : (b.withPipe data inbound dupTo cmd).From w := by
  refine ⟨withPipe_kept started.kept data inbound dupTo (by rw [same]) (by rw [same]), ?_,
    started.io, started.waiting, started.asked, started.calls, ?_⟩
  · have before := started.gpg
    have cmdBefore : b.world.gpg.cmd = { w.gpg.cmd with idx := b.world.gpg.cmd.idx } :=
      congrArg Gpg.cmd before
    have cmdNow : cmd = { w.gpg.cmd with idx := cmd.idx } := same.trans (by rw [cmdBefore])
    calc { b.world.gpg with cmd }
      _ = { w.gpg with cmd } := by rw [before]
      _ = { w.gpg with cmd := { w.gpg.cmd with idx := cmd.idx } } := by rw [← cmdNow]
  · intro entry member
    rcases List.mem_append.mp member with before | now
    · exact started.filled entry before
    · rw [List.mem_singleton.mp now]
      exact ⟨nofun, nofun, rfl⟩

/-- The command descriptor has its place in the table once its entry was reached. -/
def Building.Placed (options : EngineGpg) (done : List ArgAndData) (b : Building) : Prop :=
  done.countP options.isCommand ≠ 0 → ∃ i < b.entries.length, b.world.gpg.cmd.idx = some i

/-- How the second pass fails at one of its calls: the pipes made by the calls in front of it are
lost.
-/
def Stopped (answers : StartAnswers) (w : World) (all : List Point) (failed : World) : Prop :=
  failed.io = w.io
  ∧ failed.Paired
  ∧ all.takeWhile answers.succeeds ≠ all
  ∧ ∃ lost,
      failed.Kept lost
      ∧ (lost = ∅ ↔ ∀ k, Point.pipe k ∉ all.takeWhile answers.succeeds)

/-- The engine with which `build_argv` is called. -/
structure World.Plain (w : World) : Prop where
  paired : w.Paired
  untagged : w.gpg.Untagged
  null : w.gpg.fdDataMap = .null

theorem World.Ready.plain {p : Prepared} (ready : w.Ready p) : w.Plain :=
  ⟨ready.paired, ready.untagged, ready.null⟩

theorem Building.From.untagged (started : b.From w) (plain : w.Plain)
    : b.world.gpg.Untagged ∧ b.stored.gpg.Untagged := by
  have pointer : b.world.gpg.fdDataMap = .null := by
    rw [started.gpg, ← plain.null]
  have same (s : Slot) (notMap : s.isMap = false) : b.world.gpg.tagOf s = none := by
    rw [started.gpg]
    have before := plain.untagged s
    cases s with
    | map m => cases notMap
    | _ => exact before
  have stored (s : Slot) (notMap : s.isMap = false)
      : b.stored.gpg.tagOf s = b.world.gpg.tagOf s := by
    cases s with
    | map m => cases notMap
    | _ => rfl
  refine ⟨?_, ?_⟩
  · intro s
    cases isMap : s.isMap with
    | false => exact same s isMap
    | true =>
        cases s with
        | map m =>
            simp only [Gpg.tagOf, pointer]
            cases m <;> rfl
        | _ => cases isMap
  · intro s
    cases isMap : s.isMap with
    | false => rw [stored s isMap, same s isMap]
    | true =>
        cases s with
        | map m =>
            cases m with
            | peer i => rfl
            | fd i =>
                simp only [Gpg.tagOf, Building.stored, MapPointer.entries, mapTag]
                cases found : b.entries[i]? with
                | none => rfl
                | some entry => exact (started.filled entry (List.mem_of_getElem? found)).2.2
        | _ => cases isMap

theorem Building.From.paired (started : b.From w) (plain : w.Plain)
    : b.world.Paired ∧ b.stored.Paired := by
  obtain ⟨untagged, untagged'⟩ := started.untagged plain
  unfold World.Paired
  refine ⟨?_, ?_⟩
  · rw [started.io]
    exact plain.paired.relocate plain.untagged untagged _
  · show b.world.io.Paired _ _ _
    rw [started.io]
    exact plain.paired.relocate plain.untagged untagged' _

theorem takeWhile_at_failure {α : Type*} {p : α → Bool} {before : List α} {x : α}
    (after : List α) (passed : ∀ y ∈ before, p y = true) (failed : p x = false)
    : (before ++ x :: after).takeWhile p = before
      ∧ (before ++ x :: after).takeWhile p ≠ before ++ x :: after := by
  have same : (before ++ x :: after).takeWhile p = before := by
    rw [List.takeWhile_append_of_pos passed, List.takeWhile_cons_of_neg (by simp [failed]),
      List.append_nil]
  refine ⟨same, ?_⟩
  rw [same]
  simp

theorem Building.From.stopped (started : b.From w) (plain : w.Plain) {before : List Point}
    (point : Point) (after : List Point)
    (passed : ∀ y ∈ before, answers.succeeds y = true)
    (failed : answers.succeeds point = false)
    (count : b.entries = [] ↔ ∀ k, Point.pipe k ∉ before)
    : Stopped answers w (before ++ point :: after) b.world := by
  obtain ⟨same, different⟩ := takeWhile_at_failure after passed failed
  refine ⟨started.io, (started.paired plain).1, different, b.opened, started.lose plain.null, ?_⟩
  rw [same, started.opened_eq_empty, count]

/-- All calls of the second pass: first the memory for each option. -/
def allPoints (base : Nat) (arglist : List ArgAndData) : List Point :=
  (List.range base).map Point.text ++ points base 0 arglist

theorem allPoints_append {base : Nat} {done rest : List ArgAndData}
    : allPoints base (done ++ rest)
      = allPoints base done
        ++ points (base + done.countP ArgAndData.takesSlot) (done.countP ArgAndData.isData)
            rest := by
  unfold allPoints
  rw [points_append, Nat.zero_add, List.append_assoc]

theorem no_pipe_points {argc datac : Nat} {done : List ArgAndData}
    : (∀ k, Point.pipe k ∉ points argc datac done) ↔ done.countP ArgAndData.isData = 0 := by
  induction done generalizing argc datac with
  | nil => simp [points]
  | cons a done ih =>
      rw [points, List.countP_cons]
      simp only [List.mem_append, not_or, forall_and, ih]
      cases a with
      | arg text argLocp => simp [argPoints, ArgAndData.isData]
      | data data inbound dupTo printFd => simp [argPoints, ArgAndData.isData]

theorem no_pipe_allPoints {base : Nat} {done : List ArgAndData}
    : (∀ k, Point.pipe k ∉ allPoints base done) ↔ done.countP ArgAndData.isData = 0 := by
  unfold allPoints
  simp only [List.mem_append, not_or, forall_and, no_pipe_points]
  simp

/-- The second pass when a part of the argument list is done. -/
structure Building.Reached (w : World) (answers : StartAnswers) (options : EngineGpg) (base : Nat)
    (done : List ArgAndData) (b : Building) : Prop where
  started : b.From w
  argc : b.argc = base + done.countP ArgAndData.takesSlot
  datac : b.entries.length = done.countP ArgAndData.isData
  passed : ∀ point ∈ allPoints base done, answers.succeeds point = true
  placed : b.Placed options done

section Entry

variable {base : Nat} {done rest : List ArgAndData} {a : ArgAndData}

theorem Building.Reached.no_pipe (reached : b.Reached w answers options base done)
    : b.entries = [] ↔ ∀ k, Point.pipe k ∉ allPoints base done := by
  rw [no_pipe_allPoints, ← reached.datac, List.length_eq_zero_iff]

theorem Building.Reached.split (reached : b.Reached w answers options base done)
    (a : ArgAndData) (rest : List ArgAndData)
    : ∃ later,
        allPoints base (done ++ a :: rest)
        = allPoints base done ++ (argPoints b.argc b.entries.length a ++ later) := by
  rw [allPoints_append, points, ← reached.argc, ← reached.datac]
  exact ⟨_, rfl⟩

theorem Building.Reached.snoc_passed (reached : b.Reached w answers options base done)
    (passed : ∀ point ∈ argPoints b.argc b.entries.length a, answers.succeeds point = true)
    : ∀ point ∈ allPoints base (done ++ [a]), answers.succeeds point = true := by
  intro point member
  rw [allPoints_append, points, ← reached.argc, ← reached.datac] at member
  simp only [points, List.append_nil, List.mem_append] at member
  rcases member with before | now
  · exact reached.passed point before
  · exact passed point now

theorem Building.Reached.snoc (reached : b.Reached w answers options base done)
    {next : Building} (started : next.From w) (argc : next.argc = b.argc + a.takesSlot.toNat)
    (datac : next.entries.length = b.entries.length + a.isData.toNat)
    (passed : ∀ point ∈ argPoints b.argc b.entries.length a, answers.succeeds point = true)
    (placed
      : next.world.gpg.cmd.idx
        = if options.isCommand a then some b.entries.length else b.world.gpg.cmd.idx)
    : next.Reached w answers options base (done ++ [a]) := by
  refine ⟨started, ?_, ?_, reached.snoc_passed passed, ?_⟩
  · rw [argc, reached.argc, List.countP_append, countP_singleton_toNat]
    omega
  · rw [datac, reached.datac, List.countP_append, countP_singleton_toNat]
  · intro found
    rw [placed]
    split
    · next isCommand =>
        refine ⟨b.entries.length, ?_, rfl⟩
        have isData : a.isData = true := by
          cases a with
          | arg text argLocp => cases isCommand
          | data data inbound dupTo printFd => rfl
        rw [datac, isData]
        exact Nat.lt_succ_self _
    · next other =>
        rw [List.countP_append, countP_singleton_toNat, Bool.eq_false_iff.mpr other] at found
        obtain ⟨i, inside, idx⟩ := reached.placed found
        exact ⟨i, by omega, idx⟩

variable (plain : w.Plain)

include plain

theorem buildArg_ends (reached : b.Reached w answers options base done)
    : Ends (buildArg answers options b a)
        (Building.Reached w answers options base (done ++ [a]))
        (Stopped answers w (allPoints base (done ++ a :: rest))) := by
  obtain ⟨later, split⟩ := reached.split a rest
  rw [split]
  cases a with
  | arg text argLocp =>
      unfold buildArg buildText
      cases memory : answers.textMemory b.argc with
      | false =>
          exact reached.started.stopped plain (.text b.argc) later reached.passed memory
            reached.no_pipe
      | true =>
          refine reached.snoc ?_ rfl rfl ?_ rfl
          · exact ⟨reached.started.kept, reached.started.gpg, reached.started.io,
              reached.started.waiting, reached.started.asked, reached.started.calls,
              reached.started.filled⟩
          · intro point member
            rw [List.mem_singleton.mp member]
            exact memory
  | data data inbound dupTo printFd =>
      let cmd :=
        if options.isCallback data then { b.world.gpg.cmd with idx := some b.entries.length }
        else b.world.gpg.cmd
      let made := b.withPipe data inbound dupTo cmd
      have same
          : buildArg answers options b (.data data inbound dupTo printFd)
            = if !answers.pipe b.entries.length then .error b.world
              else if dupTo = -1 then buildText answers made
              else .ok made :=
        rfl
      rw [same]
      cases piped : answers.pipe b.entries.length with
      | false =>
          exact reached.started.stopped plain (.pipe b.entries.length) _ reached.passed piped
            reached.no_pipe
      | true =>
          have onlyIdx : cmd = { b.world.gpg.cmd with idx := cmd.idx } := by
            simp only [cmd]
            split <;> rfl
          have placed
              : cmd.idx
                = if options.isCallback data then some b.entries.length
                  else b.world.gpg.cmd.idx := by
            simp only [cmd]
            split <;> rfl
          have started : made.From w := reached.started.withPipe data inbound dupTo onlyIdx
          have datac : made.entries.length = b.entries.length + 1 := List.length_append
          simp only [Bool.not_true, Bool.false_eq_true, if_false]
          by_cases special : dupTo = -1
          · rw [if_pos special]
            have calls
                : argPoints b.argc b.entries.length (.data data inbound dupTo printFd)
                  = [.pipe b.entries.length, .text b.argc] := by
              rw [argPoints, if_pos special]
            unfold buildText
            cases memory : answers.textMemory made.argc with
            | false =>
                have passed
                    : ∀ point ∈ allPoints base done ++ [.pipe b.entries.length],
                        answers.succeeds point = true := by
                  intro point member
                  rcases List.mem_append.mp member with before | now
                  · exact reached.passed point before
                  · rw [List.mem_singleton.mp now]
                    exact piped
                have count
                    : made.entries = []
                      ↔ ∀ k,
                          Point.pipe k ∉ allPoints base done ++ [.pipe b.entries.length] := by
                  constructor
                  · intro empty
                    rw [empty] at datac
                    cases datac
                  · intro none
                    exact (none b.entries.length (by simp)).elim
                have stopped := started.stopped plain (.text b.argc) later passed memory count
                rw [calls]
                simp only [List.append_assoc, List.cons_append, List.nil_append] at stopped ⊢
                exact stopped
            | true =>
                refine reached.snoc ?_ ?_ datac ?_ placed
                · exact ⟨started.kept, started.gpg, started.io, started.waiting, started.asked,
                    started.calls, started.filled⟩
                · simp [special, ArgAndData.takesSlot, made, Building.withPipe]
                · rw [calls]
                  intro point member
                  rcases List.mem_cons.mp member with now | now
                  · rw [now]
                    exact piped
                  · rw [List.mem_singleton.mp now]
                    exact memory
          · rw [if_neg special]
            refine reached.snoc started ?_ datac ?_ placed
            · simp [special, ArgAndData.takesSlot, made, Building.withPipe]
            · rw [argPoints, if_neg special]
              intro point member
              rw [List.mem_singleton.mp member]
              exact piped

end Entry

/-- The engine after `build_argv`: the table is stored, and nothing is lost. -/
structure World.Built (options : EngineGpg) (w next : World) : Prop where
  kept : next.Kept ∅
  paired : next.Paired
  untagged : next.gpg.Untagged
  alike
    : next.gpg = {
        w.gpg with
        fdDataMap := .table next.gpg.fdDataMap.entries
        cmd := { w.gpg.cmd with idx := next.gpg.cmd.idx } }
  io : next.io = w.io
  waiting : next.waiting = w.waiting
  asked : next.asked = w.asked
  calls : next.calls = w.calls
  filled
    : ∀ entry ∈ next.gpg.fdDataMap.entries,
        entry.fd ≠ none ∧ entry.peerFd ≠ none ∧ entry.tag = none
  placed
    : options.arglist.countP options.isCommand ≠ 0
      → ∃ i < next.gpg.fdDataMap.entries.length, next.gpg.cmd.idx = some i

theorem World.Plain.start (plain : w.Plain) (kept : w.Kept ∅) (argc : Nat)
    : Building.From w { world := w, argc } := by
  have slots (s : Slot) : (Building.stored { world := w, argc }).gpg.slot s = w.gpg.slot s := by
    cases s with
    | map m =>
        simp only [Gpg.slot, plain.null]
        rfl
    | _ => rfl
  refine ⟨⟨kept.holds.congr slots, ?_, by simp [Building.stored], kept.use, kept.parked⟩, rfl, rfl,
    rfl, rfl, rfl, by simp⟩
  intro s fd found
  rw [slots] at found
  exact kept.notified s fd found

theorem buildOptions_ends (plain : w.Plain) (kept : w.Kept ∅) (texts : List Str)
    (arglist : List ArgAndData)
    : Ends (texts.foldlM (fun b _ => buildText answers b) { world := w })
        (fun b =>
          b = { world := w, argc := texts.length }
          ∧ ∀ point ∈ (List.range texts.length).map Point.text, answers.succeeds point = true)
        (Stopped answers w (allPoints texts.length arglist)) := by
  let invariant (done : List Str) (b : Building) : Prop :=
    b = { world := w, argc := done.length }
    ∧ ∀ point ∈ (List.range done.length).map Point.text, answers.succeeds point = true
  have start : invariant [] { world := w } := ⟨rfl, by simp⟩
  refine Ends.foldlM start ?_
  intro done text rest b whole reached
  obtain ⟨rfl, passed⟩ := reached
  unfold buildText
  cases memory : answers.textMemory done.length with
  | true =>
      refine ⟨by simp, ?_⟩
      intro point member
      rw [List.length_append, List.length_singleton, List.range_succ, List.map_append] at member
      rcases List.mem_append.mp member with before | now
      · exact passed point before
      · rw [List.mem_singleton.mp now]
        exact memory
  | false =>
      have split
          : ∃ later,
              allPoints texts.length arglist
              = (List.range done.length).map Point.text ++ .text done.length :: later := by
        have length : texts.length = done.length + (rest.length + 1) := by
          rw [whole, List.length_append, List.length_cons]
        unfold allPoints
        rw [length, List.range_add, List.range_succ_eq_map]
        simp only [List.map_append, List.map_cons, List.append_assoc, List.cons_append,
          Nat.add_zero]
        exact ⟨_, rfl⟩
      obtain ⟨later, split⟩ := split
      rw [split]
      exact (plain.start kept done.length).stopped plain (.text done.length) later passed memory
        (by simp)

/-- Whether the second pass is reached, with what the environment says about the agent. -/
def StartAnswers.secondPass (answers : StartAnswers) : Option Bool :=
  if answers.argvMemory && answers.mapMemory then answers.useAgent else none

/-- The calls of `build_argv` in its second pass. -/
def secondPassCalls (options : EngineGpg) (useAgent : Bool) (pgmname : Str) : List Point :=
  allPoints (options.optionArgs useAgent pgmname).length options.arglist

theorem buildPass_ends (plain : w.Plain) (kept : w.Kept ∅) (texts : List Str)
    : Ends
        (do
          let b ← texts.foldlM (fun b _ => buildText answers b) { world := w }
          options.arglist.foldlM (buildArg answers options) b)
        (Building.Reached w answers options texts.length options.arglist)
        (Stopped answers w (allPoints texts.length options.arglist)) := by
  refine (buildOptions_ends plain kept texts options.arglist).bind ?_
  intro b done
  obtain ⟨rfl, passed⟩ := done
  have start : Building.Reached w answers options texts.length [] { world := w, argc := texts.length }
      := by
    refine ⟨plain.start kept _, rfl, rfl, ?_, fun found => (found rfl).elim⟩
    intro point member
    rw [allPoints, points, List.append_nil] at member
    exact passed point member
  refine Ends.foldlM start ?_
  intro done a rest b whole reached
  rw [whole]
  exact buildArg_ends plain reached

theorem Building.Reached.built {base : Nat} (plain : w.Plain)
    (reached : b.Reached w answers options base options.arglist)
    : w.Built options b.stored := by
  have started := reached.started
  refine ⟨started.kept, (started.paired plain).2, (started.untagged plain).2, ?_, started.io,
    started.waiting, started.asked, started.calls, started.filled, reached.placed⟩
  unfold Building.stored
  rw [started.gpg]
  rfl

theorem buildArgv_ends (plain : w.Plain) (kept : w.Kept ∅) (pgmname : Str)
    : Ends (w.buildArgv options pgmname answers)
        (fun next =>
          w.Built options next
          ∧ ∃ useAgent,
              answers.secondPass = some useAgent
              ∧ ∀ point ∈ secondPassCalls options useAgent pgmname,
                  answers.succeeds point = true)
        (fun failed =>
          (failed = w ∧ answers.secondPass = none)
          ∨ ∃ useAgent,
              answers.secondPass = some useAgent
              ∧ Stopped answers w (secondPassCalls options useAgent pgmname) failed) := by
  unfold World.buildArgv StartAnswers.secondPass
  cases answered : answers.useAgent with
  | none =>
      refine Or.inl ⟨rfl, ?_⟩
      split <;> rfl
  | some useAgent =>
      have same : w.dropFdDataMap = w := by
        unfold World.dropFdDataMap
        rw [plain.null]
      dsimp only
      rw [same]
      cases memory : answers.argvMemory && answers.mapMemory with
      | false =>
          have fails : (!answers.argvMemory || !answers.mapMemory) = true := by
            rw [← Bool.not_and, memory]
            rfl
          rw [if_pos fails]
          exact Or.inl ⟨rfl, rfl⟩
      | true =>
          have goesOn : ¬(!answers.argvMemory || !answers.mapMemory) = true := by
            rw [← Bool.not_and, memory]
            exact Bool.false_ne_true
          rw [if_neg goesOn]
          rw [← bind_assoc]
          refine Ends.bind
            ((buildPass_ends plain kept (options.optionArgs useAgent pgmname)).imp
              (fun _ reached => reached) ?_) ?_
          · intro failed stopped
            exact Or.inr ⟨useAgent, rfl, stopped⟩
          · intro b reached
            exact ⟨reached.built plain, useAgent, rfl, reached.passed⟩

end Gpgme.Lifecycle
