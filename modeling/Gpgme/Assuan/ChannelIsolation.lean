import Gpgme.Assuan.ChannelCalls
import Gpgme.Assuan.ChannelOrder

/-! Runs of one engine of `engine-gpgsm.c`: as long as every call is clean, it moves only its own
data and closes only its own descriptors.
-/

namespace Gpgme.Channels

variable {w next : World} {skip : Option Callback} {lost : Set Nat} {set : List FdType}
variable {c : Callback} {channel : FdType} {fd : Nat}

-----------------------------------------------------------------------------------------
-- Operations
-----------------------------------------------------------------------------------------

/-- The engine is sound for some lost duplicates. -/
def World.Intact (w : World) (set : List FdType) : Prop := ∃ lost, w.Sound none lost set

/-- What a clean call keeps. -/
theorem World.Intact.call {call : Call} (intact : w.Intact set) (unset : Unset set call)
    (clean : w.Clean call)
    : (w.call call).2.Intact (setUp set call) := by
  obtain ⟨lost, sound⟩ := intact
  cases call with
  | malloc => exact ⟨lost, sound.answer⟩
  | command line => exact ⟨lost, sound.assuan⟩
  | setFd channel data opt => exact ⟨lost, sound.setFd unset clean⟩
  | newHelper fingerprints =>
      refine ⟨lost, ?_⟩
      dsimp only [World.call]
      split
      · exact sound.congr rfl rfl rfl rfl rfl
      · exact sound.congr rfl rfl rfl rfl rfl
  | releaseHelper => exact ⟨lost, sound.congr rfl rfl rfl rfl rfl⟩
  | openStatus => exact sound.openStatus
  | addIoCb callback => exact ⟨lost, sound.addIoCb clean⟩
  | writeLine line => exact ⟨lost, sound.assuan⟩

/-- When an operation begins, what is open was open before. -/
theorem World.Intact.begin (intact : w.Intact set) (answers : List GpgError)
    : (w.begin answers).Intact [] := by
  obtain ⟨lost, sound⟩ := intact
  refine ⟨lost, ?_⟩
  exact { sound with
    current := by
      intro channel fd held fresh
      apply absurd _ fresh
      have isOpen : (w.cb (.channel channel)).fd = some fd := held
      simp only [World.begin, List.mem_filter]
      refine ⟨?_, by rw [isOpen]; rfl⟩
      cases channel <;> simp }

-----------------------------------------------------------------------------------------
-- Closes between the operations
-----------------------------------------------------------------------------------------

/-- The close of what a structure holds clears it. -/
theorem World.Sound.ioClose (sound : w.Sound none lost set)
    : (w.ioClose (w.cb c).fd).Sound none lost set
      ∧ place (w.ioClose (w.cb c).fd).cb = Function.update (place w.cb) (.fd c) none := by
  cases held : (w.cb c).fd with
  | none =>
      have same : Function.update (place w.cb) (.fd c) none = place w.cb := by
        rw [Function.update_eq_self_iff]
        exact held.symm
      rw [same]
      exact ⟨sound, rfl⟩
  | some fd =>
      have cb : (w.ioClose (some fd)).cb
          = Function.update w.cb c { w.cb c with fd := none, tag := none } := by
        rcases sound.cb_ioClose held with ⟨_, silent⟩ | cleared
        · exact absurd (sound.notified c fd (by simp) held) silent
        · exact cleared
      have places
          : place (w.ioClose (some fd)).cb = Function.update (place w.cb) (.fd c) none := by
        have server : place w.cb (.serverFd c) = (w.cb c).serverFd := rfl
        rw [cb, place_update, ← server]
        funext s
        by_cases isServer : s = .serverFd c
        · simp [isServer]
        · simp [isServer]
      refine ⟨?_, places⟩
      apply sound.close held (s := .fd c) rfl places
      · intro other
        rw [cb]
        by_cases here : other = c <;> simp [here]
      · exact fun number member other => World.mem_notified_ioClose member other
      · exact World.foreign_ioClose
      · exact World.history_ioClose

/-- The close of a lost duplicate. -/
theorem World.Sound.closeLost (sound : w.Sound none lost set) (member : fd ∈ lost)
    : (w.ioClose (some fd)).Sound none (lost \ {fd}) set := by
  have free (c : Callback) : (w.cb c).fd ≠ some fd := fun held =>
    sound.holds.apart (.fd c) fd held member
  have cb := World.cb_ioClose_of_free free
  obtain ⟨id, isEnd⟩ := (sound.holds.owns.isOpen fd).mpr (Or.inr member)
  have ends : (w.ioClose (some fd)).ends = w.ends.close fd := rfl
  have kept (number : Nat) (before : w.NotMade number) : (w.ioClose (some fd)).NotMade number := by
    intro id made
    rw [World.history_ioClose] at made
    rw [ends, PipeEnds.files_close]
    split
    · simp
    · exact before id made
  constructor
  case holds =>
    rw [cb, ends]
    exact sound.holds.closeLost member
  case lostStatus => exact fun number inLost => kept number (sound.lostStatus number inLost.1)
  case status =>
    rw [cb]
    exact fun number held => kept number (sound.status number held)
  case made =>
    rw [ends, World.history_ioClose, PipeEnds.created_close]
    exact sound.made
  case registered =>
    rw [World.history_ioClose]
    exact sound.registered
  case foreign =>
    rw [World.foreign_ioClose, ends]
    exact fun number found => PipeEnds.kept_close isEnd (sound.foreign number found) (by simp)
  case current =>
    intro channel number held fresh
    rw [cb] at held ⊢
    rw [World.history_ioClose] at fresh ⊢
    have other : number ≠ fd := by
      rintro rfl
      exact free _ held
    rw [ends, PipeEnds.files_close, if_neg other]
    exact sound.current channel number held fresh
  case server =>
    rw [cb]
    exact sound.server
  case notified =>
    intro c number unskipped held
    rw [cb] at held
    apply World.mem_notified_ioClose (sound.notified c number unskipped held)
    rintro rfl
    exact free c held

/-- `gpgsm_cancel` closes the descriptors of all structures. -/
theorem World.Sound.cancel (sound : w.Sound none lost set)
    : w.cancel.Sound none lost set ∧ ∀ c, (w.cancel.cb c).fd = none := by
  obtain ⟨closed, empty⟩ := PipeEnds.foldl_empties (fun (w : World) (c : Callback) => (w.cb c).fd)
    (fun w c => w.ioClose (w.cb c).fd) (fun w => w.Sound none lost set)
    (by
      intro w c sound
      obtain ⟨kept, places⟩ := sound.ioClose (c := c)
      refine ⟨kept, ?_⟩
      funext other
      have found := congrFun places (.fd other)
      rw [Function.update_apply] at found ⊢
      simpa [place] using found)
    World.callbacks sound
  refine ⟨closed.congr rfl rfl rfl rfl rfl, ?_⟩
  intro c
  have none := empty c
  rw [if_pos mem_callbacks] at none
  exact none

/-- When no structure holds a descriptor any more, the pipe ends of all channels are closed. -/
theorem World.Sound.allClosed (sound : w.Sound none lost set) (empty : ∀ c, (w.cb c).fd = none)
    : w.AllClosed := by
  intro id member
  apply Ledger.count_released (sound.made id member)
  intro live
  obtain ⟨fd, found⟩ := w.ends.present id live
  rcases (sound.holds.owns.isOpen fd).mp ⟨id, found⟩ with ⟨s, held⟩ | inLost
  · cases s with
    | fd c =>
        have none : place w.cb (.fd c) = none := empty c
        rw [none] at held
        cases held
    | serverFd c =>
        have none : place w.cb (.serverFd c) = none := sound.server c (by simp)
        rw [none] at held
        cases held
  · exact sound.lostStatus fd inLost id member found

/-- A registered descriptor that is still open is in its structure or lost. -/
theorem World.Intact.ioEvent (intact : w.Intact set) (tag : Nat) : (w.ioEvent tag).Intact set := by
  obtain ⟨lost, sound⟩ := intact
  unfold World.ioEvent
  cases found : w.history.registrations[tag]? with
  | none => exact ⟨lost, sound⟩
  | some registration =>
      dsimp only
      split
      · next ready =>
          obtain ⟨⟨id, file⟩, _⟩ := sound.registered registration (List.mem_of_getElem? found)
          have isEnd := ready.2.trans file
          rcases (sound.holds.owns.isOpen _).mp ⟨id, isEnd⟩ with ⟨s, held⟩ | inLost
          · cases s with
            | fd c =>
                have own : (w.cb c).fd = some registration.fd := held
                rw [← own]
                exact ⟨lost, sound.ioClose.1⟩
            | serverFd c =>
                have none : place w.cb (.serverFd c) = none := sound.server c (by simp)
                rw [none] at held
                cases held
          · exact ⟨_, sound.closeLost inLost⟩
      · exact ⟨lost, sound⟩

-----------------------------------------------------------------------------------------
-- Files of others
-----------------------------------------------------------------------------------------

/-- The invariant does not depend on what others do with their files. -/
theorem World.Sound.others (sound : w.Sound none lost set) {ends : PipeEnds} {foreign : List Nat}
    (same
      : ∀ number id, ends.fds.files number = some (some id)
          ↔ w.ends.fds.files number = some (some id))
    (ledger : ends.ledger = w.ends.ledger)
    (open' : ∀ number ∈ foreign, ends.fds.files number = some none)
    : { w with ends, foreign }.Sound none lost set := by
  have kept (number : Nat) (before : w.NotMade number) : { w with ends, foreign }.NotMade number :=
    fun id member now => before id member ((same number id).mp now)
  constructor
  case holds => exact sound.holds.sameEnds same ledger
  case lostStatus => exact fun number inLost => kept number (sound.lostStatus number inLost)
  case status => exact fun number held => kept number (sound.status number held)
  case made =>
    intro id member
    have before := sound.made id member
    rwa [← ledger] at before
  case registered => exact sound.registered
  case foreign => exact open'
  case current =>
    intro channel number held fresh
    obtain ⟨inSet, assignment, member, operation, channelSame, data, file⟩ :=
      sound.current channel number held fresh
    exact ⟨inSet, assignment, member, operation, channelSame, data, (same _ _).mpr file⟩
  case server => exact sound.server
  case notified => exact sound.notified

/-- What a clean event keeps. -/
theorem World.Intact.step {event : Event} (intact : w.Intact set) (clean : w.CleanEvent event)
    : ∃ set, (w.step event).2.Intact set := by
  cases event with
  | operation operation answers =>
      let holds (set : List FdType) (w : World) : Prop := w.Intact set
      have begun : holds [] (w.begin answers) := intact.begin answers
      exact Calls.run_follows World.Intact.call (Operation.ordered_steps _ operation) begun clean
  | engineFlags origin =>
      obtain ⟨lost, sound⟩ := intact
      exact ⟨set, lost, sound.congr rfl rfl rfl rfl rfl⟩
  | io tag => exact ⟨set, intact.ioEvent tag⟩
  | statusDone =>
      obtain ⟨lost, sound⟩ := intact
      exact ⟨set, lost, sound.ioClose.1⟩
  | cancel =>
      obtain ⟨lost, sound⟩ := intact
      exact ⟨set, lost, sound.cancel.1⟩
  | othersOpen =>
      obtain ⟨lost, sound⟩ := intact
      refine ⟨set, lost, sound.others (fun _ _ => PipeEnds.end_openOther) rfl ?_⟩
      intro number member
      rw [PipeEnds.files_openOther]
      split
      · rfl
      · next other =>
          rcases List.mem_cons.mp member with new | before
          · exact absurd new other
          · exact sound.foreign number before
  | othersClose fd =>
      obtain ⟨lost, sound⟩ := intact
      refine ⟨set, lost, sound.others (fun _ _ => PipeEnds.end_closeOther)
        PipeEnds.ledger_closeOther ?_⟩
      intro number member
      obtain ⟨before, other⟩ := List.mem_filter.mp member
      have kept := sound.foreign number before
      by_cases foreign : w.ends.fds.files fd = some none
      · rw [PipeEnds.files_closeOther foreign, if_neg (by simpa using other)]
        exact kept
      · rw [PipeEnds.closeOther_of_ne foreign]
        exact kept

-----------------------------------------------------------------------------------------
-- Runs
-----------------------------------------------------------------------------------------

/-- A new world has not touched the descriptors of others. -/
theorem new_intact (others : Descriptors Unit) : (World.new others).Intact [] := by
  refine ⟨∅, ?_⟩
  constructor
  case holds =>
    apply PipeEnds.holds_inherit others
    intro s
    cases s <;> rfl
  case lostStatus => exact fun _ member => member.elim
  case status =>
    intro fd held
    cases held
  case made =>
    intro id member
    cases member
  case registered =>
    intro registration member
    cases member
  case foreign =>
    intro fd member
    obtain ⟨_, isOpen⟩ := List.mem_filter.mp member
    obtain ⟨file, found⟩ := Option.isSome_iff_exists.mp isOpen
    simp [World.new, PipeEnds.inherit, found]
  case current =>
    intro channel fd held
    cases held
  case server => exact fun _ _ => rfl
  case notified =>
    intro c fd _ held
    cases held

/-- While nothing foreign is touched the calls behave. -/
theorem World.Intact.behaves (intact : w.Intact set) : w.Behaves := by
  obtain ⟨lost, sound⟩ := intact
  obtain ⟨canceled, empty⟩ := sound.cancel
  exact ⟨sound.ownOnly, canceled.ownOnly, canceled.allClosed empty⟩

/-- In every run of clean events an engine moves only its own data and closes only its own
descriptors: the callback of every channel is its operation's own, and when the engine is released
every pipe end has been closed exactly once and all files of others are open.
-/
theorem channels_isolated {others : Descriptors Unit} {events : List Event}
    (clean : Machine.AlongTotal World.step World.CleanEvent (World.new others) events)
    : (World.after others events).Behaves := by
  let holds (w : World) : Prop := ∃ set, w.Intact set
  have step {w : World} {event : Event} (intact : holds w) (clean : w.CleanEvent event)
      : holds (w.step event).2 := by
    obtain ⟨set, intact⟩ := intact
    exact intact.step clean
  have new : holds (World.new others) := ⟨[], new_intact others⟩
  obtain ⟨set, intact⟩ : holds (World.after others events) :=
    Machine.runTotal_invariant step new clean
  exact intact.behaves

-----------------------------------------------------------------------------------------
-- Concrete runs
-----------------------------------------------------------------------------------------

/-- A process with its three standard descriptors. -/
def standardFiles : Descriptors Unit := ((Descriptors.empty.set 0 ()).set 1 ()).set 2 ()

def memoryObject (object : Nat) : Option DataObject := some (.user object .memory .none)

/-- A decryption between memory objects that ends well, one that fails at its second channel, and
the release.
-/
theorem clean_run_behaves
    : (World.after standardFiles
        [.operation (.decrypt (memoryObject 1) (memoryObject 2)) [], .io 1, .othersOpen, .io 2,
          .statusDone,
          .operation (.decrypt (memoryObject 1) (memoryObject 2)) [0, 0, 0, 0, 1]]).Behaves :=
  channels_isolated (by decide +kernel)

/-- A decryption from a data object on descriptor 0 closes that descriptor. A decryption that fails
at its second channel leaves the first one open: a key listing behind it registers that channel
with the data object of the decryption, and a second decryption makes a new pipe for it, so that
the end of the old one is not closed when the engine is released.
-/
theorem channels_not_isolated
    : ¬(World.after standardFiles
          [.operation
            (.decrypt (some (.user 1 (.descriptor 0) .none)) (memoryObject 2)) []]).Behaves
      ∧ ¬(World.after standardFiles
          [.operation (.decrypt (memoryObject 1) (memoryObject 2)) [0, 0, 0, 0, 1],
            .operation (.keylist {} none) []]).Behaves
      ∧ ¬(World.after standardFiles
          [.operation (.decrypt (memoryObject 1) (memoryObject 2)) [0, 0, 0, 0, 1],
            .operation (.decrypt (memoryObject 1) (memoryObject 2)) []]).Behaves := by
  refine ⟨?_, ?_, ?_⟩
  · intro behaves
    exact absurd (behaves.now.foreignOpen 0 (by decide +kernel)) (by decide +kernel)
  · intro behaves
    exact absurd behaves.now.registered (by decide +kernel)
  · intro behaves
    exact absurd behaves.allClosed (by decide +kernel)

end Gpgme.Channels
