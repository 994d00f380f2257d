import Gpgme.Lib.Descriptors

/-! The child branch of `_gpgme_io_spawn` of `posix-io.c`, up to `execv`: which file each
descriptor of the new program refers to.
-/

namespace Gpgme

variable {α : Type*}

/-- A file that is open in the child: one that the parent has opened, or the one that the child
opens itself.
-/
inductive OpenFile (α : Type*) where
  | inherited (file : α)
  | devNull
deriving DecidableEq

/-- An entry of `fd_list`; there is no `dupTo` if the number is to stay. -/
structure SpawnFdItem where
  fd : Nat
  dupTo : Option Nat
deriving DecidableEq

/-- The number that the new program gets the file at. -/
def SpawnFdItem.childFd (item : SpawnFdItem) : Nat := item.dupTo.getD item.fd

/-- The table of the child and what it has seen in the list. -/
structure Child (α : Type*) where
  table : Descriptors (OpenFile α)
  seenStdin : Bool := false
  seenStdout : Bool := false
  seenStderr : Bool := false

/-- The first number behind all those in the list, for `closefrom`. -/
def highestFd (fdList : List SpawnFdItem) : Nat :=
  fdList.foldl (fun fd item => if fd < item.fd + 1 then item.fd + 1 else fd) 0

/-- Close all numbers below `maxFds` which will not be inherited. -/
def closeLoop (fdList : List SpawnFdItem) (maxFds : Nat) (table : Descriptors (OpenFile α))
    : Descriptors (OpenFile α) :=
  (List.range maxFds).foldl
    (fun table fd => if fdList.any (fun item => item.fd == fd) then table else table.close fd)
    table

def Child.see (child : Child α) (childFd : Nat) : Child α :=
  if childFd = 0 then { child with seenStdin := true }
  else if childFd = 1 then { child with seenStdout := true }
  else if childFd = 2 then { child with seenStderr := true }
  else child

/-- The body of the loop that duplicates; the child exits when `dup2` fails. -/
def Child.dupItem (child : Child α) (item : SpawnFdItem) : Option (Child α) :=
  let child := child.see item.childFd
  match item.dupTo with
  | none => some child
  | some dupTo =>
      match child.table.dup2 item.fd dupTo with
      | none => none
      | some table => some { child with table := table.close item.fd }

def Child.dupLoop (child : Child α) : List SpawnFdItem → Option (Child α)
  | [] => some child
  | item :: rest =>
      match child.dupItem item with
      | none => none
      | some child => child.dupLoop rest

/-- Connect a number that the list has not got with the file at `fd`. -/
def connect (table : Descriptors (OpenFile α)) (fd : Nat) (seen : Bool) (number : Nat)
    : Option (Descriptors (OpenFile α)) :=
  if !seen && fd != number then table.dup2 fd number else some table

/-- Connect standard input, output and error. -/
def Child.connectStandard (child : Child α) : Option (Descriptors (OpenFile α)) :=
  if !child.seenStdin || !child.seenStdout || !child.seenStderr then do
    let (fd, table) := child.table.openFile .devNull
    let table ← connect table fd child.seenStdin 0
    let table ← connect table fd child.seenStdout 1
    let table ← connect table fd child.seenStderr 2
    return if fd ≠ 0 ∧ fd ≠ 1 ∧ fd ≠ 2 then table.close fd else table
  else
    some child.table

/-- The number below which the child closes what it does not inherit. Where there is a `closefrom`
that succeeds, this is the first number behind those in the list.
-/
def closeLimit (hasClosefrom : Bool) (getMaxFds : Nat) (fdList : List SpawnFdItem) : Nat :=
  if hasClosefrom then highestFd fdList else getMaxFds

/-- The table with which the new program starts, if the child does not exit before. -/
def childTable (hasClosefrom : Bool) (getMaxFds : Nat) (fdList : List SpawnFdItem)
    (start : Descriptors α)
    : Option (Descriptors (OpenFile α)) := do
  let table := start.map OpenFile.inherited
  let table := if hasClosefrom then table.closefrom (highestFd fdList) else table
  let table := closeLoop fdList (closeLimit hasClosefrom getMaxFds fdList) table
  let child ← Child.dupLoop { table } fdList
  child.connectStandard

/-- The child gets the right files: each entry's file at its number, files at the numbers of
standard input, output and error, and no others.
-/
def GetsFiles (maxFds : Nat) (fdList : List SpawnFdItem) (start : Descriptors α)
    (table : Descriptors (OpenFile α))
    : Prop :=
  (∀ item ∈ fdList, table.files item.childFd = (start.files item.fd).map .inherited)
  ∧ (∀ number < 3, table.files number ≠ none)
  ∧ ∀ number < maxFds,
      table.files number ≠ none → number < 3 ∨ ∃ item ∈ fdList, item.childFd = number

/-- No entry is to be duplicated to its own number or to that of a later one. -/
def KeepsSources (fdList : List SpawnFdItem) : Prop :=
  fdList.Pairwise (fun earlier later => earlier.dupTo ≠ some later.fd)
  ∧ ∀ item ∈ fdList, item.dupTo ≠ some item.fd

-----------------------------------------------------------------------------------------
-- The loops
-----------------------------------------------------------------------------------------

/-- The list has an entry for a number. -/
def Listed (fdList : List SpawnFdItem) (fd : Nat) : Prop := ∃ item ∈ fdList, item.fd = fd

/-- What the first loop leaves open, by induction on the limit. -/
theorem closeLoop_files (fdList : List SpawnFdItem) (maxFds : Nat)
    (table : Descriptors (OpenFile α)) (number : Nat)
    : (Listed fdList number ∨ maxFds ≤ number
        → (closeLoop fdList maxFds table).files number = table.files number)
      ∧ (¬ Listed fdList number → number < maxFds
        → (closeLoop fdList maxFds table).files number = none) := by
  induction maxFds with
  | zero => exact ⟨fun _ => rfl, fun _ below => absurd below (Nat.not_lt_zero _)⟩
  | succ maxFds ih =>
      have unfolded
          : closeLoop fdList (maxFds + 1) table
            = if fdList.any (fun item => item.fd == maxFds) then closeLoop fdList maxFds table
              else (closeLoop fdList maxFds table).close maxFds := by
        unfold closeLoop
        rw [List.range_succ, List.foldl_append]
        rfl
      have listed_iff : fdList.any (fun item => item.fd == maxFds) = true ↔ Listed fdList maxFds := by
        simp [Listed]
      rw [unfolded]
      by_cases listed : Listed fdList maxFds
      · rw [if_pos (listed_iff.mpr listed)]
        refine ⟨fun kept => ih.1 (kept.imp_right fun above => by omega), fun unlisted below => ?_⟩
        have other : number ≠ maxFds := fun same => unlisted (same ▸ listed)
        exact ih.2 unlisted (by omega)
      · rw [if_neg (mt listed_iff.mp listed), Descriptors.close_files]
        refine ⟨fun kept => ?_, fun unlisted below => ?_⟩
        · have other : number ≠ maxFds := by
            rintro rfl
            rcases kept with kept | above
            · exact listed kept
            · omega
          rw [if_neg other]
          exact ih.1 (kept.imp_right fun above => by omega)
        · split
          · rfl
          · exact ih.2 unlisted (by omega)

/-- Whether a number has been seen. -/
def Child.seen (child : Child α) : Nat → Bool
  | 0 => child.seenStdin
  | 1 => child.seenStdout
  | 2 => child.seenStderr
  | _ => false

/-- A note about a standard descriptor leaves the table alone. -/
theorem Child.see_table (child : Child α) (childFd : Nat)
    : (child.see childFd).table = child.table := by
  unfold Child.see
  repeat' split
  all_goals rfl

/-- A standard descriptor is noted once it was seen. -/
theorem Child.see_seen (child : Child α) (childFd number : Nat) (standard : number < 3)
    : (child.see childFd).seen number = (child.seen number || childFd == number) := by
  unfold Child.see
  interval_cases number
  all_goals
    repeat' split
    all_goals simp_all [Child.seen]

/-- What the loop that duplicates does with one entry. -/
theorem Child.dupItem_cases {child after : Child α} {item : SpawnFdItem}
    (stepped : child.dupItem item = some after)
    : (∀ number < 3, after.seen number = (child.seen number || item.childFd == number))
      ∧ (item.dupTo = none ∧ after.table = child.table
        ∨ ∃ dupTo file,
            item.dupTo = some dupTo
            ∧ child.table.files item.fd = some file
            ∧ after.table = (child.table.set dupTo file).close item.fd) := by
  unfold Child.dupItem at stepped
  dsimp only at stepped
  split at stepped
  · next stays =>
      cases stepped
      exact ⟨child.see_seen item.childFd, Or.inl ⟨stays, child.see_table _⟩⟩
  · next dupTo moves =>
      split at stepped
      · cases stepped
      · next table duplicated =>
          cases stepped
          obtain ⟨file, isOpen, rfl⟩ := Descriptors.dup2_eq_some duplicated
          rw [child.see_table] at isOpen
          refine ⟨child.see_seen item.childFd, Or.inr ⟨dupTo, file, moves, isOpen, ?_⟩⟩
          dsimp only
          rw [child.see_table]

/-- The entry's file is there, so the loop goes on. -/
theorem Child.dupItem_of_open {child : Child α} {item : SpawnFdItem} {file : OpenFile α}
    (isOpen : child.table.files item.fd = some file)
    : ∃ after, child.dupItem item = some after := by
  unfold Child.dupItem
  dsimp only
  cases item.dupTo with
  | none => exact ⟨_, rfl⟩
  | some dupTo =>
      dsimp only
      rw [child.see_table, Descriptors.dup2_of_open isOpen]
      exact ⟨_, rfl⟩

section Duplicates

variable {fdList : List SpawnFdItem} (numbers : (fdList.map SpawnFdItem.fd).Nodup)
  (targets : (fdList.map SpawnFdItem.childFd).Nodup)

/-- The state of the loop that duplicates, between the entries that are done and those that are
not: the files of the former are at their new numbers, those of the latter at the old ones, and
below the limit nothing else is open.
-/
structure Child.Duplicates (start : Nat → Option (OpenFile α)) (maxFds : Nat)
    (done rest : List SpawnFdItem) (child : Child α)
    : Prop where
  placed : ∀ item ∈ done, child.table.files item.childFd = start item.fd
  waiting : ∀ item ∈ rest, child.table.files item.fd = start item.fd
  others
    : ∀ number < maxFds,
        child.table.files number ≠ none
        → (∃ item ∈ done, item.childFd = number) ∨ Listed rest number
  seen : ∀ number < 3, child.seen number = true ↔ ∃ item ∈ done, item.childFd = number

include numbers targets

/-- No number that an entry's file leaves or goes to is in use by another one. -/
theorem KeepsSources.apart (keeps : KeepsSources fdList) {done rest : List SpawnFdItem}
    {item : SpawnFdItem} (split : fdList = done ++ item :: rest) {dupTo : Nat}
    (moves : item.dupTo = some dupTo)
    : dupTo ≠ item.fd
      ∧ (∀ earlier ∈ done, earlier.childFd ≠ dupTo ∧ earlier.childFd ≠ item.fd)
      ∧ ∀ later ∈ rest, later.fd ≠ dupTo ∧ later.fd ≠ item.fd := by
  subst split
  have target : item.childFd = dupTo := by simp [SpawnFdItem.childFd, moves]
  rw [List.map_append, List.map_cons, List.nodup_append, List.nodup_cons] at numbers targets
  obtain ⟨pairs, self⟩ := keeps
  rw [List.pairwise_append, List.pairwise_cons] at pairs
  refine ⟨?_, ?_, ?_⟩
  · rintro rfl
    exact self item (by simp) moves
  · intro earlier member
    refine ⟨?_, fun same => ?_⟩
    · rw [← target]
      exact targets.2.2 _ (List.mem_map_of_mem member) _ (by simp)
    · cases moved : earlier.dupTo with
      | none =>
          rw [SpawnFdItem.childFd, moved] at same
          exact numbers.2.2 _ (List.mem_map_of_mem member) _ (by simp) same
      | some number =>
          rw [SpawnFdItem.childFd, moved] at same
          exact pairs.2.2 earlier member item (by simp) (by rw [moved, ← same]; rfl)
  · intro later member
    refine ⟨?_, fun same => numbers.2.1.1 (same ▸ List.mem_map_of_mem member)⟩
    rintro rfl
    exact pairs.2.1.1 later member moves

/-- One more item is duplicated, and those that follow keep their sources. -/
theorem Child.Duplicates.step (keeps : KeepsSources fdList)
    {start : Nat → Option (OpenFile α)} {maxFds : Nat} {done rest : List SpawnFdItem}
    {item : SpawnFdItem} (split : fdList = done ++ item :: rest) {child after : Child α}
    (inv : child.Duplicates start maxFds done (item :: rest))
    (stepped : child.dupItem item = some after)
    : after.Duplicates start maxFds (done ++ [item]) rest := by
  obtain ⟨seen, changes⟩ := Child.dupItem_cases stepped
  have allSeen
      : ∀ number < 3,
          after.seen number = true ↔ ∃ entry ∈ done ++ [item], entry.childFd = number := by
    intro number standard
    rw [seen number standard, Bool.or_eq_true, inv.seen number standard, beq_iff_eq]
    simp only [List.mem_append, List.mem_singleton, or_and_right, exists_or, exists_eq_left]
  rcases changes with ⟨stays, same⟩ | ⟨dupTo, file, moves, isOpen, changed⟩
  · have target : item.childFd = item.fd := by simp [SpawnFdItem.childFd, stays]
    refine ⟨?_, ?_, ?_, allSeen⟩
    · intro entry member
      rw [same]
      rcases List.mem_append.mp member with member | member
      · exact inv.placed entry member
      · rw [List.mem_singleton.mp member, target]
        exact inv.waiting item (by simp)
    · intro entry member
      rw [same]
      exact inv.waiting entry (by simp [member])
    · intro number below isOpen
      rw [same] at isOpen
      rcases inv.others number below isOpen with ⟨entry, member, place⟩ | ⟨entry, member, place⟩
      · exact Or.inl ⟨entry, by simp [member], place⟩
      · rcases List.mem_cons.mp member with rfl | member
        · exact Or.inl ⟨entry, by simp, by rw [target, place]⟩
        · exact Or.inr ⟨entry, member, place⟩
  · obtain ⟨self, earlier, later⟩ := keeps.apart numbers targets split moves
    have target : item.childFd = dupTo := by simp [SpawnFdItem.childFd, moves]
    have files (number : Nat)
        : after.table.files number
          = if number = item.fd then none
            else if number = dupTo then some file
            else child.table.files number := by
      rw [changed, Descriptors.close_files, Descriptors.set_files]
    refine ⟨?_, ?_, ?_, allSeen⟩
    · intro entry member
      rcases List.mem_append.mp member with member | member
      · rw [files, if_neg (earlier entry member).2, if_neg (earlier entry member).1]
        exact inv.placed entry member
      · rw [List.mem_singleton.mp member, target, files, if_neg self, if_pos rfl, ← isOpen]
        exact inv.waiting item (by simp)
    · intro entry member
      rw [files, if_neg (later entry member).2, if_neg (later entry member).1]
      exact inv.waiting entry (by simp [member])
    · intro number below
      rw [files]
      split
      · simp
      split
      · next same => exact fun _ => Or.inl ⟨item, by simp, by rw [target, same]⟩
      · next other _ =>
          intro isOpen
          rcases inv.others number below isOpen with ⟨entry, member, place⟩ | ⟨entry, member, place⟩
          · exact Or.inl ⟨entry, by simp [member], place⟩
          · rcases List.mem_cons.mp member with rfl | member
            · exact absurd place.symm other
            · exact Or.inr ⟨entry, member, place⟩

/-- The loop that duplicates goes through all entries, by induction on those that are left. -/
theorem Child.Duplicates.loop (keeps : KeepsSources fdList)
    {start : Nat → Option (OpenFile α)} (isOpen : ∀ item ∈ fdList, start item.fd ≠ none)
    {maxFds : Nat} {done rest : List SpawnFdItem} (split : fdList = done ++ rest)
    {child : Child α} (inv : child.Duplicates start maxFds done rest)
    : ∃ after, child.dupLoop rest = some after ∧ after.Duplicates start maxFds fdList [] := by
  induction rest generalizing done child with
  | nil =>
      rw [List.append_nil] at split
      subst split
      exact ⟨child, rfl, inv⟩
  | cons item rest ih =>
      obtain ⟨file, here⟩ := Option.ne_none_iff_exists'.mp (isOpen item (by simp [split]))
      rw [← inv.waiting item (by simp)] at here
      obtain ⟨after, stepped⟩ := Child.dupItem_of_open here
      obtain ⟨last, ran, final⟩ :=
        ih (by simp [split]) (inv.step numbers targets keeps split stepped)
      exact ⟨last, by simp [Child.dupLoop, stepped, ran], final⟩

end Duplicates

-----------------------------------------------------------------------------------------
-- Standard input, output and error
-----------------------------------------------------------------------------------------

/-- An unused standard descriptor gets the null device. -/
theorem connect_files {table : Descriptors (OpenFile α)} {fd : Nat}
    (isOpen : table.files fd = some .devNull) (seen : Bool) (target : Nat)
    : ∃ after,
        connect table fd seen target = some after
        ∧ ∀ number,
            after.files number
            = if seen = false ∧ number = target then some .devNull else table.files number := by
  unfold connect
  by_cases connects : (!seen && fd != target) = true
  · rw [if_pos connects, Descriptors.dup2_of_open isOpen]
    refine ⟨_, rfl, fun number => ?_⟩
    rw [Descriptors.set_files]
    simp_all
  · rw [if_neg connects]
    refine ⟨table, rfl, fun number => ?_⟩
    split
    · next free =>
        have same : fd = target := by simpa [free.1] using connects
        rw [free.2, ← same, isOpen]
    · rfl

/-- The file that was opened is at all three numbers that have not been seen. Apart from these, it
may only be at one of them that is not open.
-/
theorem Child.connectStandard_files (child : Child α)
    : ∃ table,
        child.connectStandard = some table
        ∧ (∀ number < 3, child.seen number = false → table.files number = some .devNull)
        ∧ ∀ number,
            (number < 3 → child.seen number = true)
            → table.files number = child.table.files number
              ∨ (child.table.files number = none
                ∧ number < 3
                ∧ table.files number = some .devNull) := by
  unfold Child.connectStandard
  by_cases missing : (!child.seenStdin || !child.seenStdout || !child.seenStderr) = true
  · rw [if_pos missing]
    have free := child.table.lowest_closed
    obtain ⟨fd, lowest⟩ : ∃ fd, fd = child.table.lowest := ⟨_, rfl⟩
    have opened (number : Nat) := Descriptors.set_files child.table fd number .devNull
    unfold Descriptors.openFile
    rw [← lowest] at free ⊢
    obtain ⟨first, ran, stdin⟩ :=
      connect_files (by rw [opened, if_pos rfl]) child.seenStdin 0
    obtain ⟨second, ran', stdout⟩ :=
      connect_files (by rw [stdin, opened, if_pos rfl, ite_self]) child.seenStdout 1
    obtain ⟨third, ran'', stderr⟩ :=
      connect_files (by rw [stdout, stdin, opened, if_pos rfl, ite_self, ite_self])
        child.seenStderr 2
    have files (number : Nat)
        : third.files number
          = if number < 3 ∧ child.seen number = false then some .devNull
            else if number = fd then some .devNull
            else child.table.files number := by
      rw [stderr, stdout, stdin, opened]
      match number with
      | 0 => simp [Child.seen]
      | 1 => simp [Child.seen]
      | 2 => simp [Child.seen]
      | number + 3 => simp
    refine ⟨if fd ≠ 0 ∧ fd ≠ 1 ∧ fd ≠ 2 then third.close fd else third,
      by simp [ran, ran', ran''], ?_, ?_⟩
    · intro number standard unseen
      split
      · next high =>
          rw [Descriptors.close_files, if_neg (by omega), files, if_pos ⟨standard, unseen⟩]
      · rw [files, if_pos ⟨standard, unseen⟩]
    · intro number other
      have notMissing : ¬ (number < 3 ∧ child.seen number = false) := by
        rintro ⟨standard, unseen⟩
        rw [other standard] at unseen
        cases unseen
      split
      · left
        rw [Descriptors.close_files]
        split
        · next same => rw [same, free]
        · next different => rw [files, if_neg notMissing, if_neg different]
      · next low =>
          rw [files, if_neg notMissing]
          split
          · next same => exact Or.inr ⟨by rw [same, free], by omega, rfl⟩
          · exact Or.inl rfl
  · rw [if_neg missing]
    refine ⟨child.table, rfl, ?_, fun number _ => Or.inl rfl⟩
    intro number standard unseen
    exfalso
    interval_cases number <;> simp_all [Child.seen]

/-- A file of the parent gets to no number that is not open behind the loops. -/
theorem Child.connectStandard_closed {child : Child α} {table : Descriptors (OpenFile α)}
    {number : Nat} (connected : child.connectStandard = some table)
    (closed : child.table.files number = none) (file : α)
    : table.files number ≠ some (.inherited file) := by
  obtain ⟨_, connected', missing, others⟩ := child.connectStandard_files
  rw [connected] at connected'
  cases connected'
  by_cases unseen : number < 3 ∧ child.seen number = false
  · rw [missing number unseen.1 unseen.2]
    simp
  · rw [not_and, Bool.not_eq_false] at unseen
    rcases others number unseen with same | ⟨_, _, fresh⟩
    · rw [same, closed]
      simp
    · rw [fresh]
      simp

-----------------------------------------------------------------------------------------
-- The files of the new program
-----------------------------------------------------------------------------------------

/-- The table in front of the loop that duplicates. -/
def inheritedTable (hasClosefrom : Bool) (getMaxFds : Nat) (fdList : List SpawnFdItem)
    (start : Descriptors α)
    : Descriptors (OpenFile α) :=
  closeLoop fdList (closeLimit hasClosefrom getMaxFds fdList)
    (if hasClosefrom then (start.map OpenFile.inherited).closefrom (highestFd fdList)
      else start.map OpenFile.inherited)

/-- The table of the child, function by function. -/
theorem childTable_eq (hasClosefrom : Bool) (getMaxFds : Nat) (fdList : List SpawnFdItem)
    (start : Descriptors α)
    : childTable hasClosefrom getMaxFds fdList start
      = (Child.dupLoop { table := inheritedTable hasClosefrom getMaxFds fdList start } fdList).bind
          Child.connectStandard :=
  rfl

/-- The first number behind those in the list, by induction on the list. -/
theorem lt_highestFd {fdList : List SpawnFdItem} {item : SpawnFdItem} (member : item ∈ fdList)
    : item.fd < highestFd fdList := by
  have covers
      : ∀ (fdList : List SpawnFdItem) (low : Nat),
          low ≤ fdList.foldl (fun fd item => if fd < item.fd + 1 then item.fd + 1 else fd) low
          ∧ ∀ item ∈ fdList,
              item.fd
              < fdList.foldl (fun fd item => if fd < item.fd + 1 then item.fd + 1 else fd) low := by
    intro fdList
    induction fdList with
    | nil => simp
    | cons first rest ih =>
        intro low
        obtain ⟨above, rest⟩ := ih (if low < first.fd + 1 then first.fd + 1 else low)
        have large : low ≤ (if low < first.fd + 1 then first.fd + 1 else low)
            ∧ first.fd < (if low < first.fd + 1 then first.fd + 1 else low) := by
          split <;> omega
        rw [List.foldl_cons]
        refine ⟨by omega, ?_⟩
        intro item member
        rcases List.mem_cons.mp member with rfl | member
        · omega
        · exact rest item member
  exact (covers fdList 0).2 item member

/-- What is in the list is not closed, and everything else below the limit is. -/
theorem inheritedTable_files (hasClosefrom : Bool) (getMaxFds : Nat) (fdList : List SpawnFdItem)
    (start : Descriptors α)
    : (∀ item ∈ fdList,
        (inheritedTable hasClosefrom getMaxFds fdList start).files item.fd
        = (start.files item.fd).map .inherited)
      ∧ ∀ number < closeLimit hasClosefrom getMaxFds fdList,
          (inheritedTable hasClosefrom getMaxFds fdList start).files number ≠ none
          → Listed fdList number := by
  refine ⟨?_, ?_⟩
  · intro item member
    unfold inheritedTable
    rw [(closeLoop_files _ _ _ _).1 (Or.inl ⟨item, member, rfl⟩)]
    have below := lt_highestFd member
    split
    · exact if_neg (by omega)
    · rfl
  · intro number below isOpen
    by_contra unlisted
    exact isOpen ((closeLoop_files _ _ _ _).2 unlisted below)

/-- Nothing is duplicated to a number that is not open, so it stays so, by induction on the
list.
-/
theorem Child.dupLoop_closed {child after : Child α} {rest : List SpawnFdItem} {number : Nat}
    (untouched : ∀ item ∈ rest, item.dupTo ≠ some number)
    (closed : child.table.files number = none) (ran : child.dupLoop rest = some after)
    : after.table.files number = none := by
  induction rest generalizing child with
  | nil =>
      cases ran
      exact closed
  | cons item rest ih =>
      rw [Child.dupLoop] at ran
      cases stepped : child.dupItem item with
      | none => simp [stepped] at ran
      | some next =>
          rw [stepped] at ran
          refine ih (fun item member => untouched item (by simp [member])) ?_ ran
          obtain ⟨_, ⟨_, same⟩ | ⟨dupTo, file, moves, _, changed⟩⟩ := Child.dupItem_cases stepped
          · rw [same, closed]
          · have other : number ≠ dupTo := by
              rintro rfl
              exact untouched item (by simp) moves
            rw [changed, Descriptors.close_files, Descriptors.set_files, if_neg other, closed,
              ite_self]

/-- Two groups of items are duplicated one after the other. -/
theorem Child.dupLoop_append (child : Child α) (first second : List SpawnFdItem)
    : child.dupLoop (first ++ second) = (child.dupLoop first).bind (·.dupLoop second) := by
  induction first generalizing child with
  | nil => rfl
  | cons item rest ih =>
      rw [List.cons_append, Child.dupLoop, Child.dupLoop]
      cases child.dupItem item with
      | none => rfl
      | some next => exact ih next

/-- The number of an entry that is duplicated is closed, and stays so if nothing is duplicated to
it later.
-/
theorem Child.dupLoop_closes {child after : Child α} {before rest : List SpawnFdItem}
    {item : SpawnFdItem} (moves : item.dupTo ≠ none)
    (untouched : ∀ later ∈ rest, later.dupTo ≠ some item.fd)
    (ran : child.dupLoop (before ++ item :: rest) = some after)
    : after.table.files item.fd = none := by
  rw [Child.dupLoop_append] at ran
  obtain ⟨middle, _, ran⟩ := Option.bind_eq_some_iff.mp ran
  rw [Child.dupLoop] at ran
  cases stepped : middle.dupItem item with
  | none => simp [stepped] at ran
  | some next =>
      rw [stepped] at ran
      refine Child.dupLoop_closed untouched ?_ ran
      obtain ⟨_, ⟨stays, _⟩ | ⟨_, _, _, _, changed⟩⟩ := Child.dupItem_cases stepped
      · exact absurd stays moves
      · rw [changed, Descriptors.close_files, if_pos rfl]

/-- Where two entries overlap, the list can be split at the later one, by induction on the list. -/
theorem keepsSources_of_split {fdList : List SpawnFdItem}
    (apart
      : ∀ before item rest,
          fdList = before ++ item :: rest
          → ∀ earlier ∈ before ++ [item], earlier.dupTo ≠ some item.fd)
    : KeepsSources fdList := by
  induction fdList with
  | nil => exact ⟨List.Pairwise.nil, by simp⟩
  | cons first tail ih =>
      obtain ⟨pairs, self⟩ := ih fun before item rest split earlier member =>
        apart (first :: before) item rest (by rw [split]; rfl) earlier
          (List.mem_cons_of_mem first member)
      refine ⟨List.pairwise_cons.mpr ⟨?_, pairs⟩, ?_⟩
      · intro later member
        obtain ⟨before, rest, split⟩ := List.append_of_mem member
        exact apart (first :: before) later rest (by rw [split]; rfl) first (by simp)
      · intro item member
        rcases List.mem_cons.mp member with rfl | member
        · exact apart [] item tail rfl item (by simp)
        · exact self item member

/-- The number of an entry is closed behind the loop where its own file or an earlier entry's is to
be. No other entry is duplicated to this number, for it is the target of that one.
-/
theorem Child.dupLoop_overlap {child after : Child α} {before rest : List SpawnFdItem}
    {item earlier : SpawnFdItem}
    (targets : ((before ++ item :: rest).map SpawnFdItem.childFd).Nodup)
    (member : earlier ∈ before ++ [item]) (overlap : earlier.dupTo = some item.fd)
    (ran : child.dupLoop (before ++ item :: rest) = some after)
    : after.table.files item.fd = none := by
  have target {entry : SpawnFdItem} (here : entry.dupTo = some item.fd)
      : entry.childFd = item.fd := by
    simp [SpawnFdItem.childFd, here]
  rw [← List.singleton_append, ← List.append_assoc, List.map_append, List.nodup_append] at targets
  have moves : item.dupTo ≠ none := by
    intro stays
    rcases List.mem_append.mp member with first | same
    · rw [List.map_append, List.nodup_append] at targets
      refine targets.1.2.2 _ (List.mem_map_of_mem first) _
        (List.mem_map_of_mem (List.mem_singleton_self item)) ?_
      rw [target overlap, SpawnFdItem.childFd, stays]
      rfl
    · rw [List.mem_singleton.mp same, stays] at overlap
      cases overlap
  have untouched : ∀ later ∈ rest, later.dupTo ≠ some item.fd := by
    intro later last again
    refine targets.2.2 _ (List.mem_map_of_mem member) _ (List.mem_map_of_mem last) ?_
    rw [target overlap, target again]
  exact Child.dupLoop_closes moves untouched ran

/-- The loop starts with the files of the entries and no others. -/
theorem inheritedTable_duplicates (hasClosefrom : Bool) (getMaxFds : Nat)
    (fdList : List SpawnFdItem) (start : Descriptors α)
    : ({ table := inheritedTable hasClosefrom getMaxFds fdList start } : Child α).Duplicates
        (fun fd => (start.files fd).map .inherited)
        (closeLimit hasClosefrom getMaxFds fdList) [] fdList := by
  obtain ⟨kept, closed⟩ := inheritedTable_files hasClosefrom getMaxFds fdList start
  refine ⟨by simp, kept, fun number below isOpen => Or.inr (closed number below isOpen), ?_⟩
  intro number standard
  interval_cases number <;> simp [Child.seen]

/-- Behind the loop, only the numbers of standard input, output and error may be missing. -/
theorem Child.Duplicates.connectStandard {child : Child α} {maxFds : Nat}
    {fdList : List SpawnFdItem} {start : Descriptors α}
    (isOpen : ∀ item ∈ fdList, start.files item.fd ≠ none)
    (inv : child.Duplicates (fun fd => (start.files fd).map .inherited) maxFds fdList [])
    : ∃ table, child.connectStandard = some table ∧ GetsFiles maxFds fdList start table := by
  obtain ⟨table, connected, missing, others⟩ := child.connectStandard_files
  refine ⟨table, connected, ?_, ?_, ?_⟩
  · intro item member
    have here := inv.placed item member
    rcases others item.childFd fun standard =>
        (inv.seen _ standard).mpr ⟨item, member, rfl⟩ with same | ⟨none, _⟩
    · rw [same, here]
    · rw [here] at none
      exact absurd (Option.map_eq_none_iff.mp none) (isOpen item member)
  · intro number standard
    cases seen : child.seen number with
    | false => simp [missing number standard seen]
    | true =>
        obtain ⟨item, member, rfl⟩ := (inv.seen number standard).mp seen
        have here := inv.placed item member
        rcases others item.childFd fun _ => seen with same | ⟨_, _, fresh⟩
        · rw [same, here]
          exact fun none => isOpen item member (Option.map_eq_none_iff.mp none)
        · simp [fresh]
  · intro number below present
    by_cases standard : number < 3
    · exact Or.inl standard
    · rcases others number fun low => absurd low standard with same | ⟨_, low, _⟩
      · rw [same] at present
        rcases inv.others number below present with found | ⟨_, nothing, _⟩
        · exact Or.inr found
        · cases nothing
      · exact Or.inl low

/-- The child gets the right files if and only if no entry is to be duplicated to its own number
or to that of a later one.
-/
theorem childTable_getsFiles_iff (hasClosefrom : Bool) (getMaxFds : Nat)
    {fdList : List SpawnFdItem} {start : Descriptors α}
    (numbers : (fdList.map SpawnFdItem.fd).Nodup)
    (targets : (fdList.map SpawnFdItem.childFd).Nodup)
    (isOpen : ∀ item ∈ fdList, start.files item.fd ≠ none)
    : (∃ table,
        childTable hasClosefrom getMaxFds fdList start = some table
        ∧ GetsFiles (closeLimit hasClosefrom getMaxFds fdList) fdList start table)
      ↔ KeepsSources fdList := by
  rw [childTable_eq]
  constructor
  · rintro ⟨table, ran, placed, _, _⟩
    obtain ⟨child, looped, connected⟩ := Option.bind_eq_some_iff.mp ran
    refine keepsSources_of_split fun before item rest split earlier member overlap => ?_
    have listed : earlier ∈ fdList := by
      rw [split]
      simp only [List.mem_append, List.mem_cons] at member ⊢
      tauto
    rw [split] at targets looped
    have lost := Child.dupLoop_overlap targets member overlap looped
    obtain ⟨file, here⟩ := Option.ne_none_iff_exists'.mp (isOpen earlier listed)
    -- The file of `earlier` should be at the number that the loop has closed.
    have target : earlier.childFd = item.fd := by simp [SpawnFdItem.childFd, overlap]
    refine Child.connectStandard_closed connected lost file ?_
    rw [← target, placed earlier listed, here]
    rfl
  · intro keeps
    have initial := inheritedTable_duplicates hasClosefrom getMaxFds fdList start
    obtain ⟨child, looped, inv⟩ :=
      Child.Duplicates.loop numbers targets keeps (by simpa using isOpen) rfl initial
    obtain ⟨table, connected, gets⟩ := inv.connectStandard isOpen
    exact ⟨table, by rw [looped]; exact connected, gets⟩

/-- A process in which the first numbers are open. -/
def openBelow (count : Nat) : Descriptors Nat where
  files fd := if fd < count then some fd else none
  bound := count
  closed fd above := if_neg (by omega)

/-- A status pipe that stays where it is and an output pipe that becomes standard output. -/
theorem childTable_getsFiles_output
    : ∃ table,
        childTable false 8 [⟨4, none⟩, ⟨6, some 1⟩] (openBelow 8) = some table
        ∧ GetsFiles 8 [⟨4, none⟩, ⟨6, some 1⟩] (openBelow 8) table := by
  have keeps : KeepsSources [⟨4, none⟩, ⟨6, some 1⟩] := by
    unfold KeepsSources
    decide
  exact (childTable_getsFiles_iff false 8 (by decide) (by decide) (by decide)).mpr keeps

/-- An input pipe that got the number of standard input, because this had been closed, is closed
as well, and the new program reads from `/dev/null`.
-/
theorem childTable_loses_input
    : ([⟨4, none⟩, ⟨0, some 0⟩].map SpawnFdItem.fd).Nodup
      ∧ ([⟨4, none⟩, ⟨0, some 0⟩].map SpawnFdItem.childFd).Nodup
      ∧ (∀ item ∈ [⟨4, none⟩, ⟨0, some 0⟩],
          (openBelow 8).files (SpawnFdItem.fd item) ≠ none)
      ∧ ∃ table,
          childTable false 8 [⟨4, none⟩, ⟨0, some 0⟩] (openBelow 8) = some table
          ∧ table.files 0 = some .devNull
          ∧ ¬ GetsFiles 8 [⟨4, none⟩, ⟨0, some 0⟩] (openBelow 8) table := by
  refine ⟨by decide, by decide, by decide, _, rfl, by decide, ?_⟩
  intro gets
  have lost := gets.1 ⟨0, some 0⟩ (by decide)
  revert lost
  decide

end Gpgme
