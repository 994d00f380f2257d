import Gpgme.Assuan.ChannelOwnership

/-! What the calls of an operation on `engine-gpgsm.c` keep of its descriptors: the calls of
`gpgsm_set_fd` and the two halves of `start`.
-/

namespace Gpgme.Channels

variable {w next : World} {skip : Option Callback} {lost : Set Nat} {set : List FdType}
variable {c : Callback} {channel : FdType} {fd : Nat}

-----------------------------------------------------------------------------------------
-- Calls without a descriptor
-----------------------------------------------------------------------------------------

/-- An answer of the server opens and closes nothing. -/
theorem World.Sound.answer (sound : w.Sound skip lost set) : w.answer.2.Sound skip lost set :=
  sound.congr rfl rfl rfl rfl rfl

/-- A call of libassuan takes at most one of the answers. -/
theorem World.assuan_snd : w.assuan.2 = w ∨ w.assuan.2 = w.answer.2 := by
  unfold World.assuan
  split
  · exact Or.inr rfl
  · exact Or.inl rfl

/-- A call of the Assuan library opens and closes nothing. -/
theorem World.Sound.assuan (sound : w.Sound skip lost set) : w.assuan.2.Sound skip lost set := by
  rcases World.assuan_snd (w := w) with same | taken
  · rw [same]
    exact sound
  · rw [taken]
    exact sound.answer

/-- What a call of libassuan leaves alone. -/
theorem World.members_assuan
    : w.assuan.2.cb = w.cb ∧ w.assuan.2.notified = w.notified ∧ w.assuan.2.ends = w.ends := by
  rcases World.assuan_snd (w := w) with same | taken
  · rw [same]
    exact ⟨rfl, rfl, rfl⟩
  · rw [taken]
    exact ⟨rfl, rfl, rfl⟩

-----------------------------------------------------------------------------------------
-- Leaving `gpgsm_set_fd`
-----------------------------------------------------------------------------------------

/-- After the close of its descriptor for the server a structure has none. -/
theorem World.Sound.closeServerFd (sound : w.Sound skip lost set)
    : (w.closeServerFd c).Sound skip lost set
      ∧ place (w.closeServerFd c).cb = Function.update (place w.cb) (.serverFd c) none
      ∧ ∀ fd ∈ w.notified, (w.cb c).fd = some fd → fd ∈ (w.closeServerFd c).notified := by
  cases held : (w.cb c).serverFd with
  | none =>
      have nothing : w.closeServerFd c = w := by
        simp only [World.closeServerFd, World.setCb, held, World.ioClose]
        rw [← held, Function.update_eq_self]
      have same : Function.update (place w.cb) (.serverFd c) none = place w.cb := by
        rw [Function.update_eq_self_iff]
        exact held.symm
      rw [nothing, same]
      exact ⟨sound, rfl, fun _ member _ => member⟩
  | some number =>
      have free (other : Callback) : (w.cb other).fd ≠ some number := by
        intro found
        have same := sound.holds.distinct (.fd other) (.serverFd c) number found held
        cases same
      have cb := World.cb_ioClose_of_free free
      have places
          : place (w.closeServerFd c).cb = Function.update (place w.cb) (.serverFd c) none := by
        simp only [World.closeServerFd, World.setCb, held, cb]
        have own : place w.cb (.fd c) = (w.cb c).fd := rfl
        rw [place_update, ← own, Function.update_eq_self]
      refine ⟨?_, places, ?_⟩
      · apply sound.close held (s := .serverFd c) _ places
        · intro other
          simp only [World.closeServerFd, World.setCb, held, cb]
          by_cases here : other = c <;> simp [here]
        · intro number member other
          simp only [World.closeServerFd, World.setCb, held]
          exact World.mem_notified_ioClose member other
        · simp only [World.closeServerFd, World.setCb, held, World.foreign_ioClose]
        · simp only [World.closeServerFd, World.setCb, held, World.history_ioClose]
        · simp only [World.closeServerFd, World.setCb, held, World.ioClose]
      · intro fd member own
        simp only [World.closeServerFd, World.setCb, held]
        apply World.mem_notified_ioClose member
        rintro rfl
        exact free c own

/-- `gpgsm_set_fd` leaves a channel without descriptors after an error. -/
theorem World.Sound.leaveSetFd (sound : w.Sound (some c) lost set)
    : (w.leaveSetFd c).Sound none lost set := by
  obtain ⟨closed, places⟩ := sound.closeFd (c := c)
  obtain ⟨left, places', _⟩ := closed.closeServerFd (c := c)
  rw [places] at places'
  have ownFd : ((w.leaveSetFd c).cb c).fd = none := by
    have found := congrFun places' (.fd c)
    rwa [Function.update_of_ne (by simp), Function.update_self] at found
  have ownServer : ((w.leaveSetFd c).cb c).serverFd = none := by
    have found := congrFun places' (.serverFd c)
    rwa [Function.update_self] at found
  apply left.whole ownServer
  intro fd held
  rw [World.leaveSetFd] at ownFd
  rw [ownFd] at held
  cases held

/-- The descriptor is passed, and whatever fails, no other one is left behind. -/
theorem World.Sound.passDescriptor (sound : w.Sound (some (.channel channel)) lost set)
    (notified : ∀ fd, (w.cb (.channel channel)).fd = some fd → fd ∈ w.notified)
    : (w.passDescriptor channel).2.Sound none lost set := by
  obtain ⟨cb, sameNotified, _⟩ := World.members_assuan (w := w)
  have sent := sound.assuan
  unfold World.passDescriptor
  dsimp only
  split
  · exact sent.leaveSetFd
  · obtain ⟨closed, places, kept⟩ := sent.closeServerFd (c := .channel channel)
    have whole : (w.assuan.2.closeServerFd (.channel channel)).Sound none lost set := by
      apply closed.whole
      · have found := congrFun places (.serverFd (.channel channel))
        rwa [Function.update_self] at found
      · intro fd held
        have before := congrFun places (.fd (.channel channel))
        rw [Function.update_of_ne (by simp)] at before
        have own : (w.assuan.2.cb (.channel channel)).fd = some fd := before.symm.trans held
        apply kept fd _ own
        rw [cb] at own
        rw [sameNotified]
        exact notified fd own
    split
    · exact whole.assuan.skipping.leaveSetFd
    · exact whole.assuan

-----------------------------------------------------------------------------------------
-- Setting up a channel
-----------------------------------------------------------------------------------------

/-- A file that was not made is not made under another number either. -/
theorem World.NotMade.of_files {number : Nat} (notMade : w.NotMade fd)
    (files : next.ends.fds.files number = w.ends.fds.files fd)
    (made : next.history.made = w.history.made)
    : next.NotMade number := by
  intro id member
  rw [made] at member
  rw [files]
  exact notMade id member

/-- A new pipe leaves the open descriptors alone. -/
theorem kept_pipe {ends : PipeEnds} {file : Option Nat}
    (found : ends.fds.files fd = some file)
    : ends.pipe.2.fds.files fd = some file :=
  PipeEnds.kept_openEnd (PipeEnds.kept_openEnd found)

/-- A new pipe for a channel without descriptors: one end is its own, the other one goes to the
server, and the own end is what is noted for the data object.
-/
structure Piped (w next : World) (channel : FdType) (lost : Set Nat) (fd server pipeEnd : Nat)
    : Prop where
  cb
    : next.cb
      = Function.update w.cb (.channel channel)
          { w.cb (.channel channel) with fd := some fd, serverFd := some server }
  ends : next.ends = w.ends.pipe.2
  holds : next.ends.Holds (place next.cb) lost
  file : next.ends.fds.files fd = some (some pipeEnd)
  assignments
    : next.history.assignments
      = w.history.assignments
        ++ [{ operation := w.history.operation
              channel
              data := (w.cb (.channel channel)).data
              pipeEnd }]

/-- `_gpgme_io_pipe` for a channel keeps the accounts, with the descriptors of the pipe in them. -/
theorem World.Sound.piped (sound : w.Sound none lost set)
    (empty : (w.cb (.channel channel)).fd = none)
    : ∃ fd server pipeEnd, Piped w (w.openPipe channel) channel lost fd server pipeEnd := by
  have free : place w.cb (.fd (.channel channel)) = none := empty
  have server : place w.cb (.serverFd (.channel channel)) = none :=
    sound.server (.channel channel) (by simp)
  obtain ⟨first, second⟩ := PipeEnds.files_pipe w.ends
  cases dir : (Callback.channel channel).dir with
  | true =>
      refine ⟨w.ends.pipe.1.1, w.ends.pipe.1.2, w.ends.ledger.created, ?_⟩
      constructor
      case cb => simp only [openPipe, setCb, dir, if_true]
      case ends => rfl
      case holds =>
        simp only [openPipe, setCb, dir, if_true, place_update]
        exact sound.holds.pipe (by simp) free server
      case file => exact first
      case assignments => simp only [openPipe, setCb, dir, if_true]
  | false =>
      refine ⟨w.ends.pipe.1.2, w.ends.pipe.1.1, w.ends.ledger.created + 1, ?_⟩
      constructor
      case cb => simp only [openPipe, setCb, dir, Bool.false_eq_true, if_false]
      case ends => rfl
      case holds =>
        simp only [openPipe, setCb, dir, Bool.false_eq_true, if_false, place_update]
        rw [Function.update_comm (by simp)]
        exact sound.holds.pipe (by simp) server free
      case file => exact second
      case assignments => simp only [openPipe, setCb, dir, Bool.false_eq_true, if_false]

/-- An end that was no channel's is no channel's after another pipe was made. -/
theorem World.NotMade.openPipe {id : Nat} (notMade : w.NotMade fd)
    (isEnd : w.ends.fds.files fd = some (some id))
    : (w.openPipe channel).NotMade fd := by
  have old : id < w.ends.ledger.created := (w.ends.live fd id isEnd).1
  intro other member
  have now : (w.openPipe channel).ends.fds.files fd = some (some id) := kept_pipe isEnd
  rw [now]
  rintro same
  cases same
  rcases List.mem_append.mp member with before | new
  · exact notMade id before isEnd
  · simp only [List.mem_cons, List.not_mem_nil, or_false] at new
    omega

/-- The two ends of a new pipe are the channel's, for its data object. -/
theorem World.Sound.openPipe (sound : w.Sound none lost set)
    (empty : (w.cb (.channel channel)).fd = none) (member : channel ∈ set)
    : (w.openPipe channel).Sound (some (.channel channel)) lost set := by
  obtain ⟨fd, server, pipeEnd, piped⟩ := sound.piped empty
  have others (other : Callback) (different : other ≠ .channel channel)
      : (w.openPipe channel).cb other = w.cb other := by
    rw [piped.cb, Function.update_of_ne different]
  constructor
  case holds => exact piped.holds
  case lostStatus =>
    intro number inLost
    obtain ⟨id, isEnd⟩ := (sound.holds.owns.isOpen number).mpr (Or.inr inLost)
    exact (sound.lostStatus number inLost).openPipe isEnd
  case status =>
    intro number held
    rw [others .status (by simp)] at held
    obtain ⟨id, isEnd⟩ := sound.holds.isEnd (s := .fd .status) held
    exact (sound.status number held).openPipe isEnd
  case made =>
    intro id member
    rw [piped.ends, PipeEnds.created_pipe]
    rcases List.mem_append.mp member with before | new
    · have old := sound.made id before
      omega
    · simp only [List.mem_cons, List.not_mem_nil, or_false] at new
      omega
  case registered =>
    intro registration found
    obtain ⟨isEnd, own⟩ := sound.registered registration found
    refine ⟨isEnd, own.imp_right ?_⟩
    rintro ⟨assignment, before, matching⟩
    refine ⟨assignment, ?_, matching⟩
    rw [piped.assignments]
    exact List.mem_append_left _ before
  case foreign =>
    intro number member
    rw [piped.ends]
    exact kept_pipe (sound.foreign number member)
  case current =>
    intro other number held fresh
    by_cases same : other = channel
    · subst same
      rw [piped.cb, Function.update_self] at held
      cases held
      refine ⟨member, ⟨w.history.operation, other, (w.cb (.channel other)).data, pipeEnd⟩, ?_, rfl,
        rfl, ?_, piped.file⟩
      · rw [piped.assignments]
        exact List.mem_append_right _ List.mem_cons_self
      · rw [piped.cb, Function.update_self]
    · rw [others _ (by simpa using same)] at held ⊢
      obtain ⟨inSet, assignment, before, operation, same, data, file⟩ :=
        sound.current other number held fresh
      refine ⟨inSet, assignment, ?_, operation, same, data, ?_⟩
      · rw [piped.assignments]
        exact List.mem_append_left _ before
      · rw [piped.ends]
        exact kept_pipe file
  case server =>
    intro other unskipped
    rw [others other (by simpa using unskipped)]
    exact sound.server other (by simp)
  case notified =>
    intro other number unskipped held
    rw [others other (by simpa using unskipped)] at held
    exact sound.notified other number (by simp) held

/-- The descriptor of a structure gets its notification. -/
theorem World.Sound.setCloseNotify (sound : w.Sound skip lost set)
    : (w.setCloseNotify c).Sound skip lost set
      ∧ ∀ fd, (w.cb c).fd = some fd → fd ∈ (w.setCloseNotify c).notified := by
  constructor
  · exact { sound with
      notified := by
        intro other fd unskipped held
        exact List.mem_append_right _ (sound.notified other fd unskipped held) }
  · intro fd held
    simp [World.setCloseNotify, held]

/-- The channel gets its data object; what is open in it was open before the operation. -/
theorem World.Sound.prepare (sound : w.Sound none lost set) (data : Option DataObject)
    (unset : channel ∉ set)
    : (w.setCb (.channel channel)
          { w.cb (.channel channel) with data, serverFd := none }).Sound
        none lost (channel :: set) := by
  have server : place w.cb (.serverFd (.channel channel)) = none :=
    sound.server (.channel channel) (by simp)
  have own : place w.cb (.fd (.channel channel)) = (w.cb (.channel channel)).fd := rfl
  have places
      : place (Function.update w.cb (.channel channel)
          { w.cb (.channel channel) with data, serverFd := none }) = place w.cb := by
    rw [place_update, ← own, Function.update_eq_self, ← server, Function.update_eq_self]
  have fds (c : Callback)
      : (Function.update w.cb (.channel channel)
          { w.cb (.channel channel) with data, serverFd := none } c).fd = (w.cb c).fd :=
    congrFun places (.fd c)
  constructor
  case holds =>
    dsimp only [World.setCb]
    rw [places]
    exact sound.holds
  case lostStatus => exact sound.lostStatus
  case status => exact fun fd held => sound.status fd ((fds .status).symm.trans held)
  case made => exact sound.made
  case registered => exact sound.registered
  case foreign => exact sound.foreign
  case current =>
    intro other fd held fresh
    obtain ⟨inSet, assigned⟩ := sound.current other fd ((fds _).symm.trans held) fresh
    refine ⟨List.mem_cons_of_mem _ inSet, ?_⟩
    have different : Callback.channel other ≠ .channel channel := by
      intro same
      cases same
      exact unset inSet
    dsimp only [World.setCb]
    rw [Function.update_of_ne different]
    exact assigned
  case server =>
    exact fun c unskipped => (congrFun places (.serverFd c)).trans (sound.server c unskipped)
  case notified =>
    exact fun c fd unskipped held => sound.notified c fd unskipped ((fds c).symm.trans held)

/-- A channel is set up that the operation has not set up before. -/
theorem World.Sound.setFd {data : Option DataObject} {opt : Option Str}
    (sound : w.Sound none lost set) (unset : channel ∉ set)
    (clean : w.Clean (.setFd channel data opt))
    : (w.setFd channel data).2.Sound none lost (channel :: set) := by
  obtain ⟨noDescriptor, closed⟩ := clean
  have ready := (sound.prepare data unset).answer
  unfold World.setFd
  simp only [noDescriptor]
  split
  · exact ready
  · next succeeds =>
      have empty := closed (not_not.mp succeeds)
      have opened := (ready.openPipe (by simpa [World.setCb, World.answer] using empty)
        List.mem_cons_self).answer
      split
      · exact opened.leaveSetFd
      · obtain ⟨kept, notified⟩ := opened.setCloseNotify (c := .channel channel)
        exact kept.passDescriptor notified

-----------------------------------------------------------------------------------------
-- Registering
-----------------------------------------------------------------------------------------

/-- Another descriptor for the status lines, or none: the one before it is lost. -/
theorem World.Sound.dropStatus (sound : w.Sound none lost set)
    : ∃ lost, (w.setCb .status { w.cb .status with fd := none }).Sound none lost set := by
  have server := sound.server .status (by simp)
  have places
      : place (Function.update w.cb .status { w.cb .status with fd := none })
        = Function.update (place w.cb) (.fd .status) none := by
    have own : place w.cb (.serverFd .status) = (w.cb .status).serverFd := rfl
    rw [place_update, ← own]
    funext s
    by_cases isServer : s = .serverFd .status
    · simp [isServer]
    · simp [isServer]
  have others (c : Callback) (different : c ≠ .status)
      : (w.setCb .status { w.cb .status with fd := none }).cb c = w.cb c :=
    Function.update_of_ne different _ _
  refine ⟨{fd | ∃ s, s = .fd .status ∧ place w.cb s = some fd} ∪ lost, ?_⟩
  constructor
  case holds =>
    apply sound.holds.abandon (· = .fd .status)
    intro s
    dsimp only [World.setCb]
    rw [places, Function.update_apply]
  case lostStatus =>
    rintro fd (⟨s, rfl, held⟩ | before)
    · exact sound.status fd held
    · exact sound.lostStatus fd before
  case status =>
    intro fd held
    simp [World.setCb] at held
  case made => exact sound.made
  case registered => exact sound.registered
  case foreign => exact sound.foreign
  case current =>
    intro channel fd held fresh
    rw [others (.channel channel) (by simp)] at held ⊢
    exact sound.current channel fd held fresh
  case server =>
    intro c unskipped
    by_cases same : c = .status
    · subst same
      simpa [World.setCb] using server
    · rw [others c same]
      exact sound.server c unskipped
  case notified =>
    intro c fd unskipped held
    by_cases same : c = .status
    · subst same
      simp [World.setCb] at held
    · rw [others c same] at held
      exact sound.notified c fd unskipped held

/-- The duplicate for the status lines is in its structure, still without a notification. -/
def World.dupStatus (w : World) : World :=
  { w.setCb .status { w.cb .status with fd := some w.ends.number } with ends := w.ends.openEnd }

/-- The duplicate of the status channel is accounted for. -/
theorem World.Sound.dupStatus (sound : w.Sound none lost set)
    (empty : (w.cb .status).fd = none)
    : w.dupStatus.Sound (some .status) lost set := by
  have others (c : Callback) (different : c ≠ .status) : w.dupStatus.cb c = w.cb c :=
    Function.update_of_ne different _ _
  have server := sound.server .status (by simp)
  have places
      : place w.dupStatus.cb = Function.update (place w.cb) (.fd .status) (some w.ends.number) := by
    have own : place w.cb (.serverFd .status) = (w.cb .status).serverFd := rfl
    dsimp only [World.dupStatus, World.setCb]
    rw [place_update, ← own]
    funext s
    by_cases isServer : s = .serverFd .status
    · simp [isServer]
    · simp [isServer]
  have file : w.dupStatus.ends.fds.files w.ends.number = some (some w.ends.ledger.created) :=
    PipeEnds.files_openEnd.trans (if_pos rfl)
  have notMade (fd id : Nat) (isEnd : w.ends.fds.files fd = some (some id))
      (before : w.NotMade fd)
      : w.dupStatus.NotMade fd := by
    have now : w.dupStatus.ends.fds.files fd = some (some id) := PipeEnds.kept_openEnd isEnd
    exact before.of_files (now.trans isEnd.symm) rfl
  constructor
  case holds =>
    have free : place w.cb (.fd .status) = none := empty
    rw [places]
    exact sound.holds.openEnd free
  case lostStatus =>
    intro fd member
    obtain ⟨id, isEnd⟩ := (sound.holds.owns.isOpen fd).mpr (Or.inr member)
    exact notMade fd id isEnd (sound.lostStatus fd member)
  case status =>
    intro fd held id member
    have new : w.ends.number = fd := by simpa [World.dupStatus, World.setCb] using held
    rw [← new, file]
    rintro same
    cases same
    exact absurd (sound.made _ member) (lt_irrefl _)
  case made =>
    intro id member
    exact Nat.lt_succ_of_lt (sound.made id member)
  case registered => exact sound.registered
  case foreign => exact fun fd member => PipeEnds.kept_openEnd (sound.foreign fd member)
  case current =>
    intro channel fd held fresh
    rw [others (.channel channel) (by simp)] at held ⊢
    obtain ⟨inSet, assignment, before, operation, same, data, file⟩ :=
      sound.current channel fd held fresh
    exact ⟨inSet, assignment, before, operation, same, data, PipeEnds.kept_openEnd file⟩
  case server =>
    intro c unskipped
    rw [others c (by simpa using unskipped)]
    exact sound.server c (by simp)
  case notified =>
    intro c fd unskipped held
    rw [others c (by simpa using unskipped)] at held
    exact sound.notified c fd (by simp) held

/-- Duplicating the status channel leaves its server end alone. -/
theorem serverFd_dupStatus : (w.dupStatus.cb .status).serverFd = (w.cb .status).serverFd := by
  simp [World.dupStatus, World.setCb]

/-- The part of `start` that makes the duplicate leaves it in its structure or nowhere. -/
theorem World.Sound.openStatus (sound : w.Sound none lost set)
    : ∃ lost, w.openStatus.2.Sound none lost set := by
  have asked := sound.assuan
  unfold World.openStatus
  dsimp only
  split
  · exact ⟨lost, asked⟩
  · have answered := asked.answer
    obtain ⟨lost, dropped⟩ := answered.dropStatus
    refine ⟨lost, ?_⟩
    split
    · exact dropped
    · have opened := (dropped.dupStatus (by simp [World.setCb])).answer
      have same
          : (w.assuan.2.answer.2.setCb .status
              { w.assuan.2.answer.2.cb .status with fd := none }).dupStatus
            = w.assuan.2.answer.2.dupStatus := by
        simp [World.dupStatus, World.setCb]
      rw [same] at opened
      have server : (w.assuan.2.answer.2.dupStatus.answer.2.cb .status).serverFd = none := by
        have before := answered.server .status (by simp)
        exact serverFd_dupStatus.trans before
      split
      · obtain ⟨closed, places⟩ := opened.closeFd (c := .status)
        apply closed.whole
        · have found := congrFun places (.serverFd .status)
          rw [Function.update_of_ne (by simp)] at found
          exact found.trans server
        · intro fd held
          have found := congrFun places (.fd .status)
          rw [Function.update_self] at found
          have none : ((w.assuan.2.answer.2.dupStatus.answer.2.closeFd .status).cb .status).fd
              = none := found
          rw [none] at held
          cases held
      · obtain ⟨kept, notified⟩ := opened.setCloseNotify (c := .status)
        exact kept.whole server notified

/-- The event loop gets the callback of a channel with what its operation gave to it. -/
theorem World.Sound.register (sound : w.Sound none lost set) (held : (w.cb c).fd = some fd)
    (fresh : ∀ channel, c = .channel channel → channel ∉ w.history.openBefore)
    : (w.register c fd).Sound none lost set := by
  have members (other : Callback)
      : ((w.register c fd).cb other).fd = (w.cb other).fd
        ∧ ((w.register c fd).cb other).serverFd = (w.cb other).serverFd
        ∧ ((w.register c fd).cb other).data = (w.cb other).data := by
    by_cases same : other = c
    · subst same
      simp [World.register, World.setCb]
    · simp [World.register, World.setCb, same]
  have places : place (w.register c fd).cb = place w.cb := by
    funext s
    cases s with
    | fd other => exact (members other).1
    | serverFd other => exact (members other).2.1
  constructor
  case holds =>
    rw [places]
    exact sound.holds
  case lostStatus => exact sound.lostStatus
  case status =>
    intro number now
    exact sound.status number ((members _).1.symm.trans now)
  case made => exact sound.made
  case registered =>
    intro registration member
    rcases List.mem_append.mp member with before | new
    · exact sound.registered registration before
    · rw [List.mem_singleton] at new
      subst new
      refine ⟨sound.holds.isEnd (s := .fd c) held, ?_⟩
      cases c with
      | status => exact Or.inl rfl
      | channel channel =>
          obtain ⟨_, assignment, member, operation, same, data, file⟩ :=
            sound.current channel fd held (fresh channel rfl)
          exact Or.inr ⟨assignment, member, operation, congrArg _ same, data, file⟩
  case foreign => exact sound.foreign
  case current =>
    intro channel number now unopened
    obtain ⟨inSet, assignment, member, operation, same, data, file⟩ :=
      sound.current channel number ((members _).1.symm.trans now) unopened
    exact ⟨inSet, assignment, member, operation, same, data.trans (members _).2.2.symm, file⟩
  case server =>
    exact fun other unskipped => (members other).2.1.trans (sound.server other unskipped)
  case notified =>
    intro other number unskipped now
    exact sound.notified other number unskipped ((members other).1.symm.trans now)

/-- `_gpgme_add_io_cb` for a clean descriptor keeps the accounts. -/
theorem World.Sound.addIoCb (sound : w.Sound none lost set) (clean : w.Clean (.addIoCb c))
    : (w.addIoCb c).2.Sound none lost set := by
  unfold World.addIoCb
  cases held : (w.cb c).fd with
  | none => exact sound
  | some fd =>
      dsimp only
      split
      · exact sound.answer
      · next succeeds =>
          have fresh (channel : FdType) (same : c = .channel channel)
              : channel ∉ w.history.openBefore := by
            subst same
            exact clean (by simp [held]) (not_not.mp succeeds)
          have registered := sound.answer.register held fresh
          split
          · exact registered
          · exact registered.answer

end Gpgme.Channels
