import Gpgme.Assuan.ChannelRuns

/-! Which descriptors the callback structures of `engine-gpgsm.c` hold, and what the calls of an
operation keep of that.
-/

namespace Gpgme.Channels

-----------------------------------------------------------------------------------------
-- The invariant
-----------------------------------------------------------------------------------------

/-- The members that hold a descriptor. -/
inductive Place where
  | fd (c : Callback)
  | serverFd (c : Callback)
deriving DecidableEq

def place (cb : Callback → Iocb) : Place → Option Nat
  | .fd c => (cb c).fd
  | .serverFd c => (cb c).serverFd

/-- The channels that have been set up by the current operation are in the list `set`; those that
are open and were not open before have what it gave to them.
-/
def World.Current (w : World) (set : List FdType) : Prop :=
  ∀ channel fd,
    (w.cb (.channel channel)).fd = some fd
    → channel ∉ w.history.openBefore
    → channel ∈ set
      ∧ ∃ assignment ∈ w.history.assignments,
          assignment.operation = w.history.operation
          ∧ assignment.channel = channel
          ∧ assignment.data = (w.cb (.channel channel)).data
          ∧ w.ends.fds.files fd = some (some assignment.pipeEnd)

/-- No pipe end of a channel has this number. -/
def World.NotMade (w : World) (fd : Nat) : Prop :=
  ∀ id ∈ w.history.made, w.ends.fds.files fd ≠ some (some id)

/-- The invariant of an engine. The descriptors that it has lost are duplicates of the one for the
status lines. Inside a call the structure `skip` may have a descriptor for the server, and one
without a notification.
-/
structure World.Sound (w : World) (skip : Option Callback) (lost : Set Nat) (set : List FdType)
    : Prop where
  holds : w.ends.Holds (place w.cb) lost
  lostStatus : ∀ fd ∈ lost, w.NotMade fd
  status : ∀ fd, (w.cb .status).fd = some fd → w.NotMade fd
  made : ∀ id ∈ w.history.made, id < w.ends.ledger.created
  registered
    : ∀ registration ∈ w.history.registrations,
        (∃ id, registration.file = some (some id))
        ∧ (registration.callback = .status ∨ registration.Own w.history.assignments)
  foreign : ∀ fd ∈ w.foreign, w.ends.fds.files fd = some none
  current : w.Current set
  server : ∀ c, some c ≠ skip → (w.cb c).serverFd = none
  notified : ∀ c fd, some c ≠ skip → (w.cb c).fd = some fd → fd ∈ w.notified

variable {w next : World} {skip : Option Callback} {lost : Set Nat} {set : List FdType}
variable {c : Callback} {channel : FdType} {fd : Nat}

/-- What a sound engine has done is its own. -/
theorem World.Sound.ownOnly (sound : w.Sound skip lost set) : w.OwnOnly where
  registered registration member := (sound.registered registration member).2
  exact := sound.holds.owns.exact
  foreignOpen := sound.foreign

/-- The invariant is about these members only. -/
theorem World.Sound.congr (sound : w.Sound skip lost set) (cb : next.cb = w.cb)
    (notified : next.notified = w.notified) (ends : next.ends = w.ends)
    (foreign : next.foreign = w.foreign) (history : next.history = w.history)
    : next.Sound skip lost set := by
  cases next
  cases w
  subst cb notified ends foreign history
  exact ⟨sound.holds, sound.lostStatus, sound.status, sound.made, sound.registered, sound.foreign,
    sound.current, sound.server, sound.notified⟩

/-- Between two calls nothing is skipped. -/
theorem World.Sound.skipping (sound : w.Sound none lost set) : w.Sound (some c) lost set :=
  { sound with
    server := fun c _ => sound.server c (by simp)
    notified := fun c fd _ => sound.notified c fd (by simp) }

/-- A channel without a server end, whose descriptor is announced, need not be skipped. -/
theorem World.Sound.whole (sound : w.Sound (some c) lost set)
    (server : (w.cb c).serverFd = none)
    (notified : ∀ fd, (w.cb c).fd = some fd → fd ∈ w.notified)
    : w.Sound none lost set :=
  { sound with
    server := by
      intro other _
      by_cases same : other = c
      · rw [same, server]
      · exact sound.server other (by simpa using same)
    notified := by
      intro other fd _ held
      by_cases same : other = c
      · exact notified fd (same ▸ held)
      · exact sound.notified other fd (by simpa using same) held }

/-- An update of a channel is one of both of its places. -/
theorem place_update {cb : Callback → Iocb} {iocb : Iocb}
    : place (Function.update cb c iocb)
      = Function.update (Function.update (place cb) (.fd c) iocb.fd) (.serverFd c)
          iocb.serverFd := by
  funext s
  cases s with
  | fd other =>
      by_cases same : other = c
      · simp [place, same]
      · simp [place, same]
  | serverFd other =>
      by_cases same : other = c
      · simp [place, same]
      · simp [place, same]

/-- A descriptor in one structure is in no other. -/
theorem World.Sound.callback_unique (sound : w.Sound skip lost set) {other : Callback}
    (held : (w.cb c).fd = some fd) (held' : (w.cb other).fd = some fd)
    : other = c := by
  have same := sound.holds.distinct (.fd other) (.fd c) fd held' held
  cases same
  rfl

-----------------------------------------------------------------------------------------
-- Closing a descriptor
-----------------------------------------------------------------------------------------

section Closing

/-- Every channel is listed. -/
theorem mem_callbacks : c ∈ World.callbacks := by
  unfold World.callbacks
  cases c with
  | status => simp
  | channel fdType => cases fdType <;> simp

/-- What `close_notify_handler` does for a descriptor of a structure. -/
theorem World.closeNotifyHandler_of_held (held : (w.cb c).fd = some fd)
    (unique : ∀ other, (w.cb other).fd = some fd → other = c)
    : (w.closeNotifyHandler fd).cb
        = Function.update w.cb c { w.cb c with fd := none, tag := none }
      ∧ (w.closeNotifyHandler fd).notified = w.notified := by
  unfold closeNotifyHandler
  cases found : callbacks.find? fun c => (w.cb c).fd == some fd with
  | none =>
      have absent := List.find?_eq_none.mp found c mem_callbacks
      simp [held] at absent
  | some other =>
      have same := unique other (by simpa using List.find?_some found)
      subst same
      exact ⟨rfl, rfl⟩

/-- The handler of a descriptor that no channel has does nothing. -/
theorem World.closeNotifyHandler_of_free (free : ∀ c, (w.cb c).fd ≠ some fd)
    : w.closeNotifyHandler fd = w := by
  unfold closeNotifyHandler
  have absent : (callbacks.find? fun c => (w.cb c).fd == some fd) = none := by
    rw [List.find?_eq_none]
    intro c _
    simpa using free c
  rw [absent]

/-- Closing makes nothing. -/
@[simp]
theorem World.history_ioClose {number : Option Nat} : (w.ioClose number).history = w.history := by
  cases number with
  | none => rfl
  | some fd =>
      simp only [ioClose]
      unfold notifyClose closeNotifyHandler
      split
      · split <;> rfl
      · rfl

/-- Closing leaves the descriptors of others alone. -/
@[simp]
theorem World.foreign_ioClose {number : Option Nat} : (w.ioClose number).foreign = w.foreign := by
  cases number with
  | none => rfl
  | some fd =>
      simp only [ioClose]
      unfold notifyClose closeNotifyHandler
      split
      · split <;> rfl
      · rfl

/-- The notifications of other descriptors stay. -/
theorem World.mem_notified_ioClose {number : Nat} (member : number ∈ w.notified)
    (other : number ≠ fd)
    : number ∈ (w.ioClose (some fd)).notified := by
  simp only [ioClose]
  unfold notifyClose closeNotifyHandler
  split
  · split
    · exact List.mem_filter.mpr ⟨member, by simpa using other⟩
    · exact List.mem_filter.mpr ⟨member, by simpa using other⟩
  · exact member

/-- No structure changes with the close of a descriptor that is in none of them. -/
theorem World.cb_ioClose_of_free (free : ∀ c, (w.cb c).fd ≠ some fd)
    : (w.ioClose (some fd)).cb = w.cb := by
  simp only [ioClose]
  unfold notifyClose
  split
  · rw [closeNotifyHandler_of_free (w := { w with notified := w.notified.filter (· ≠ fd) }) free]
  · rfl

/-- The close of a descriptor of a structure clears it there, or leaves the structures alone. -/
theorem World.Sound.cb_ioClose (sound : w.Sound skip lost set) (held : (w.cb c).fd = some fd)
    : (w.ioClose (some fd)).cb = w.cb ∧ fd ∉ w.notified
      ∨ (w.ioClose (some fd)).cb
          = Function.update w.cb c { w.cb c with fd := none, tag := none } := by
  have unique (other : Callback) (held' : (w.cb other).fd = some fd) : other = c :=
    sound.callback_unique held held'
  simp only [World.ioClose]
  unfold World.notifyClose
  split
  · refine Or.inr ?_
    exact (World.closeNotifyHandler_of_held
      (w := { w with notified := w.notified.filter (· ≠ fd) }) held unique).1
  · next absent => exact Or.inl ⟨rfl, absent⟩

/-- The rule for the close of a descriptor that a member holds. -/
theorem World.Sound.close (sound : w.Sound skip lost set) {s : Place}
    (found : place w.cb s = some fd) (ends : next.ends = w.ends.close fd)
    (cb : place next.cb = Function.update (place w.cb) s none)
    (data : ∀ c, (next.cb c).data = (w.cb c).data)
    (notified : ∀ number ∈ w.notified, number ≠ fd → number ∈ next.notified)
    (foreign : next.foreign = w.foreign) (history : next.history = w.history)
    : next.Sound skip lost set := by
  have kept (t : Place) (number : Nat) (now : place next.cb t = some number)
      : place w.cb t = some number ∧ number ≠ fd := by
    rw [cb, Function.update_apply] at now
    split at now
    · cases now
    · next apart =>
        refine ⟨now, ?_⟩
        rintro rfl
        exact apart (sound.holds.distinct t s number now found)
  have files (number : Nat) (other : number ≠ fd)
      : next.ends.fds.files number = w.ends.fds.files number := by
    rw [ends, PipeEnds.files_close, if_neg other]
  have notMade (number : Nat) (before : w.NotMade number) : next.NotMade number := by
    intro id member
    rw [history] at member
    rw [ends, PipeEnds.files_close]
    split
    · simp
    · exact before id member
  constructor
  case holds =>
    rw [ends, cb]
    exact sound.holds.close found
  case lostStatus => exact fun number member => notMade number (sound.lostStatus number member)
  case status =>
    exact fun number now => notMade number (sound.status number (kept (.fd .status) number now).1)
  case made =>
    rw [ends, history, PipeEnds.created_close]
    exact sound.made
  case registered =>
    rw [history]
    exact sound.registered
  case foreign =>
    intro number member
    rw [foreign] at member
    obtain ⟨id, isEnd⟩ := sound.holds.isEnd found
    rw [ends]
    exact PipeEnds.kept_close isEnd (sound.foreign number member) (by simp)
  case current =>
    intro channel number now fresh
    obtain ⟨before, other⟩ := kept (.fd (.channel channel)) number now
    rw [history] at fresh ⊢
    rw [data, files number other]
    exact sound.current channel number before fresh
  case server =>
    intro c unskipped
    cases now : (next.cb c).serverFd with
    | none => rfl
    | some number =>
        have before : (w.cb c).serverFd = some number := (kept (.serverFd c) number now).1
        rw [sound.server c unskipped] at before
        cases before
  case notified =>
    intro c number unskipped now
    obtain ⟨before, other⟩ := kept (.fd c) number now
    exact notified number (sound.notified c number unskipped before) other

/-- After the close of its descriptor a structure has none. -/
theorem World.Sound.closeFd (sound : w.Sound skip lost set)
    : (w.closeFd c).Sound skip lost set
      ∧ place (w.closeFd c).cb = Function.update (place w.cb) (.fd c) none := by
  cases held : (w.cb c).fd with
  | none =>
      have nothing : w.closeFd c = w := by
        simp only [World.closeFd, World.setCb, held, World.ioClose]
        rw [← held, Function.update_eq_self]
      have same : Function.update (place w.cb) (.fd c) none = place w.cb := by
        rw [Function.update_eq_self_iff]
        exact held.symm
      rw [nothing, same]
      exact ⟨sound, rfl⟩
  | some fd =>
      have places : place (w.closeFd c).cb = Function.update (place w.cb) (.fd c) none := by
        simp only [World.closeFd, World.setCb, held]
        have server : place w.cb (.serverFd c) = (w.cb c).serverFd := rfl
        rcases sound.cb_ioClose held with ⟨same, _⟩ | cleared
        · rw [same, place_update, ← server]
          funext s
          by_cases isServer : s = .serverFd c
          · simp [isServer]
          · simp [isServer]
        · rw [cleared, place_update, place_update]
          funext s
          by_cases isServer : s = .serverFd c
          · simp [isServer, place]
          · by_cases isFd : s = .fd c
            · simp [isFd]
            · simp [isServer, isFd]
      refine ⟨?_, places⟩
      apply sound.close held (s := .fd c) _ places
      · intro other
        simp only [World.closeFd, World.setCb, held]
        rcases sound.cb_ioClose held with ⟨same, _⟩ | cleared
        · by_cases here : other = c <;> simp [same, here]
        · by_cases here : other = c <;> simp [cleared, here]
      · intro number member other
        simp only [World.closeFd, World.setCb, held]
        exact World.mem_notified_ioClose member other
      · simp only [World.closeFd, World.setCb, held, World.foreign_ioClose]
      · simp only [World.closeFd, World.setCb, held, World.history_ioClose]
      · simp only [World.closeFd, World.setCb, held, World.ioClose]

end Closing

end Gpgme.Channels
