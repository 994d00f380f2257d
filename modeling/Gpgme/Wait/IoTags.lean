import Gpgme.Lib.Ledger

/-! The tags that stand for the registrations of a context, and the engine functions that add and
remove them: those of the private and of the global event loop, and those that pass every
registration on to the event loop of a user.
-/

namespace Gpgme

-----------------------------------------------------------------------------------------
-- Adding and removing
-----------------------------------------------------------------------------------------

/-- What `add` is told about a registration; -1 as a descriptor is `none`. -/
structure IoCb (η : Type*) where
  fd : Option Nat
  dir : Nat
  handler : η
deriving DecidableEq

/-- `struct tag` with the entry of the descriptor table that it leads to. -/
structure IoTag (η : Type*) where
  cb : IoCb η
  userTag : Option Nat := none

/-- Whether the context uses the event loop of a user, the tags with the live ones by number, and
the tags of the user, of which `add` returns a new one for every call.
-/
structure IoTags (η : Type*) where
  user : Bool
  tags : Ledger := .empty
  app : Ledger := .empty
  items : Nat → Option (IoTag η) := fun _ => none

/-- How the parts of a registration end: the memory and the table, the function of the user, and
`_gpgme_io_set_nonblocking` behind it.
-/
structure AddAnswers where
  table : Bool := true
  app : Bool := true
  nonblocking : Bool := true
deriving DecidableEq

namespace IoTags

variable {η : Type*} (t : IoTags η)

/-- The new tag of `_gpgme_add_io_cb`. -/
def addTag (cb : IoCb η) : IoTags η :=
  { t with
    tags := t.tags.acquire,
    items := Function.update t.items t.tags.created (some { cb }) }

/-- `_gpgme_add_io_cb`, with the value that it leaves in `r_tag`. -/
def addIoCb (answers : AddAnswers) (cb : IoCb η) (rTag : Option Nat)
    : (Bool × Option Nat) × IoTags η :=
  if answers.table then ((true, some t.tags.created), t.addTag cb) else ((false, rTag), t)

/-- `_gpgme_remove_io_cb`. -/
def removeIoCb (tag : Nat) : IoTags η :=
  { t with tags := t.tags.release tag, items := Function.update t.items tag none }

/-- `_gpgme_wait_user_add_io_cb`. -/
def waitUserAddIoCb (answers : AddAnswers) (cb : IoCb η) (rTag : Option Nat)
    : (Bool × Option Nat) × IoTags η :=
  match t.addIoCb answers cb rTag with
  | ((false, rTag), t) => ((false, rTag), t)
  | ((true, none), t) => ((false, none), t)
  | ((true, some tag), t) =>
      if answers.app then
        ((true, some tag),
          { t with
            app := t.app.acquire,
            items := Function.update t.items tag (some { cb, userTag := some t.app.created }) })
      else
        -- the caller's field keeps the tag that is freed here
        ((false, some tag), t.removeIoCb tag)

/-- `_gpgme_wait_user_remove_io_cb`; nothing can be read from a tag that was freed. -/
def waitUserRemoveIoCb (tag : Nat) : IoTags η :=
  match t.items tag with
  | none => t.removeIoCb tag
  | some item =>
      let app :=
        match item.userTag with
        | some userTag => t.app.release userTag
        | none => t.app.miss
      { t.removeIoCb tag with app }

/-- `io_cbs.add`. -/
def add (answers : AddAnswers) (cb : IoCb η) (rTag : Option Nat)
    : (Bool × Option Nat) × IoTags η :=
  if t.user then t.waitUserAddIoCb answers cb rTag else t.addIoCb answers cb rTag

/-- `io_cbs.remove`. -/
def remove (tag : Nat) : IoTags η :=
  if t.user then t.waitUserRemoveIoCb tag else t.removeIoCb tag

-----------------------------------------------------------------------------------------
-- What the functions do
-----------------------------------------------------------------------------------------

variable {t} {answers : AddAnswers} {cb : IoCb η} {rTag : Option Nat} {tag : Nat}

/-- The live tags are the ones with an entry, and so are the tags of the user. -/
structure Sound (t : IoTags η) : Prop where
  live : ∀ tag, t.tags.Live tag ↔ ∃ item, t.items tag = some item
  userLive
    : ∀ userTag,
        t.app.Live userTag ↔ ∃ tag item, t.items tag = some item ∧ item.userTag = some userTag
  userTag : ∀ tag item, t.items tag = some item → item.userTag.isSome = t.user
  distinct
    : ∀ tag other item item' userTag,
        t.items tag = some item
        → t.items other = some item'
        → item.userTag = some userTag
        → item'.userTag = some userTag
        → tag = other
  exact : t.app.stray = 0

theorem sound_initial (user : Bool) : ({ user } : IoTags η).Sound where
  live tag := by simp [Ledger.Live, Ledger.empty]
  userLive userTag := by simp [Ledger.Live, Ledger.empty]
  userTag := by simp
  distinct := by simp
  exact := rfl

/-- The entry of a new tag. -/
def newItem (t : IoTags η) (cb : IoCb η) : IoTag η :=
  { cb, userTag := if t.user then some t.app.created else none }

/-- The tags after a registration that succeeded. -/
def added (t : IoTags η) (cb : IoCb η) : IoTags η :=
  { t with
    tags := t.tags.acquire,
    app := if t.user then t.app.acquire else t.app,
    items := Function.update t.items t.tags.created (some (t.newItem cb)) }

/-- The registration meets no failure. -/
def Accepts (t : IoTags η) (answers : AddAnswers) : Prop :=
  answers.table = true ∧ (t.user = true → answers.app = true)

theorem add_accepted (accepts : t.Accepts answers)
    : t.add answers cb rTag = ((true, some t.tags.created), t.added cb) := by
  obtain ⟨table, app⟩ := accepts
  unfold add added newItem
  cases user : t.user with
  | false => simp [addIoCb, addTag, table, user]
  | true => simp [waitUserAddIoCb, addIoCb, addTag, table, app user, user]

theorem add_refused (full : answers.table = false)
    : t.add answers cb rTag = ((false, rTag), t) := by
  unfold add
  cases t.user <;> simp [waitUserAddIoCb, addIoCb, full]

theorem add_vetoed (table : answers.table = true) (user : t.user = true)
    (veto : answers.app = false)
    : t.add answers cb rTag
      = ((false, some t.tags.created), (t.addTag cb).removeIoCb t.tags.created) := by
  simp [add, waitUserAddIoCb, addIoCb, table, user, veto]

theorem add_willing (added : (t.add answers cb rTag).1.1 = true) (user : t.user = true)
    : answers.app = true := by
  cases table : answers.table with
  | false =>
      rw [add_refused table] at added
      cases added
  | true =>
      cases app : answers.app with
      | true => rfl
      | false =>
          rw [add_vetoed table user app] at added
          cases added

theorem user_add : (t.add answers cb rTag).2.user = t.user := by
  cases table : answers.table with
  | false => rw [add_refused table]
  | true =>
      cases user : t.user with
      | false =>
          rw [add_accepted ⟨table, by simp [user]⟩]
          exact user
      | true =>
          cases app : answers.app with
          | false =>
              rw [add_vetoed table user app]
              exact user
          | true =>
              rw [add_accepted ⟨table, fun _ => app⟩]
              exact user

theorem user_remove : (t.remove tag).user = t.user := by
  unfold remove waitUserRemoveIoCb
  split
  · split <;> rfl
  · rfl

theorem Sound.no_created (sound : t.Sound) : t.items t.tags.created = none := by
  cases found : t.items t.tags.created with
  | none => rfl
  | some item => exact (Ledger.created_not_live ((sound.live _).mpr ⟨item, found⟩)).elim

theorem Sound.items_added (sound : t.Sound) {item : IoTag η}
    : (t.added cb).items tag = some item
      ↔ t.items tag = some item ∨ (tag = t.tags.created ∧ item = t.newItem cb) := by
  unfold added
  dsimp only
  by_cases new : tag = t.tags.created
  · subst new
    rw [Function.update_self, sound.no_created]
    simp [eq_comm]
  · rw [Function.update_of_ne new]
    simp [new]

theorem Sound.userTag_fresh (sound : t.Sound) {item : IoTag η} {userTag : Nat}
    (found : t.items tag = some item) (mine : item.userTag = some userTag)
    : (t.newItem cb).userTag ≠ some userTag := by
  intro same
  unfold newItem at same
  split at same
  · cases same
    exact Ledger.created_not_live ((sound.userLive _).mpr ⟨tag, item, found, mine⟩)
  · cases same

theorem Sound.added (sound : t.Sound) (cb : IoCb η) : (t.added cb).Sound where
  live tag := by
    simp only [sound.items_added, exists_or, exists_and_left, exists_eq, and_true, ← sound.live]
    exact Ledger.live_acquire
  userLive userTag := by
    have others
        : (∃ tag item, (t.added cb).items tag = some item ∧ item.userTag = some userTag)
          ↔ t.app.Live userTag ∨ (t.newItem cb).userTag = some userTag := by
      simp only [sound.items_added, sound.userLive]
      constructor
      · rintro ⟨tag, item, found | ⟨_, rfl⟩, mine⟩
        · exact Or.inl ⟨tag, item, found, mine⟩
        · exact Or.inr mine
      · rintro (⟨tag, item, found, mine⟩ | mine)
        · exact ⟨tag, item, Or.inl found, mine⟩
        · exact ⟨_, _, Or.inr ⟨rfl, rfl⟩, mine⟩
    rw [others]
    unfold IoTags.added newItem
    split
    · rw [Ledger.live_acquire, Option.some.injEq, eq_comm]
    · simp
  userTag tag item found := by
    rcases sound.items_added.mp found with old | ⟨_, rfl⟩
    · exact sound.userTag tag item old
    · unfold newItem IoTags.added
      cases t.user <;> rfl
  distinct := by
    intro tag other item item' userTag found found' mine mine'
    rcases sound.items_added.mp found with old | ⟨new, rfl⟩ <;>
      rcases sound.items_added.mp found' with old' | ⟨new', rfl⟩
    · exact sound.distinct tag other item item' userTag old old' mine mine'
    · exact (sound.userTag_fresh old mine mine').elim
    · exact (sound.userTag_fresh old' mine' mine).elim
    · rw [new, new']
  exact := by
    unfold IoTags.added
    dsimp only
    split
    · exact sound.exact
    · exact sound.exact

theorem tags_remove : (t.remove tag).tags = t.tags.release tag := by
  unfold remove waitUserRemoveIoCb
  split
  · split <;> rfl
  · rfl

theorem items_remove : (t.remove tag).items = Function.update t.items tag none := by
  unfold remove waitUserRemoveIoCb
  split
  · split <;> rfl
  · rfl

theorem items_remove_eq_some {item : IoTag η} {other : Nat}
    : (t.remove tag).items other = some item ↔ t.items other = some item ∧ other ≠ tag := by
  rw [items_remove, Function.update_apply]
  split
  · next same => simp [same]
  · next apart => simp [apart]

theorem app_remove {item : IoTag η} (found : t.items tag = some item)
    (user : item.userTag.isSome = t.user)
    : (t.remove tag).app
      = match item.userTag with
        | some userTag => t.app.release userTag
        | none => t.app := by
  unfold remove waitUserRemoveIoCb
  cases mine : item.userTag with
  | none =>
      rw [mine] at user
      simp [← user, removeIoCb]
  | some userTag =>
      rw [mine] at user
      simp [← user, found, mine]

theorem Sound.remove (sound : t.Sound) {item : IoTag η} (found : t.items tag = some item)
    : (t.remove tag).Sound := by
  have live : t.tags.Live tag := (sound.live tag).mpr ⟨item, found⟩
  have app := app_remove found (sound.userTag tag item found)
  refine ⟨?_, ?_, ?_, ?_, ?_⟩
  · intro other
    simp only [items_remove_eq_some, exists_and_right, ← sound.live, tags_remove]
    exact Ledger.live_release live
  · intro userTag
    have left
        : (∃ other entry,
            (t.remove tag).items other = some entry ∧ entry.userTag = some userTag)
          ↔ t.app.Live userTag ∧ item.userTag ≠ some userTag := by
      simp only [items_remove_eq_some, sound.userLive]
      constructor
      · rintro ⟨other, entry, ⟨found', apart⟩, mine⟩
        refine ⟨⟨other, entry, found', mine⟩, ?_⟩
        intro same
        exact apart (sound.distinct other tag entry item userTag found' found mine same)
      · rintro ⟨⟨other, entry, found', mine⟩, apart⟩
        refine ⟨other, entry, ⟨found', ?_⟩, mine⟩
        rintro rfl
        rw [found] at found'
        cases found'
        exact apart mine
    rw [left, app]
    cases mine : item.userTag with
    | none => simp
    | some mineTag =>
        dsimp only
        rw [Ledger.live_release ((sound.userLive mineTag).mpr ⟨tag, item, found, mine⟩),
          ne_eq, ne_eq, Option.some.injEq, eq_comm]
  · intro other entry found'
    rw [user_remove]
    exact sound.userTag other entry (items_remove_eq_some.mp found').1
  · intro other other' entry entry' userTag found' found'' mine mine'
    exact sound.distinct other other' entry entry' userTag (items_remove_eq_some.mp found').1
      (items_remove_eq_some.mp found'').1 mine mine'
  · rw [app]
    cases mine : item.userTag with
    | none => exact sound.exact
    | some userTag =>
        dsimp only
        rw [Ledger.stray_release ((sound.userLive userTag).mpr ⟨tag, item, found, mine⟩)]
        exact sound.exact

-----------------------------------------------------------------------------------------
-- The fields that hold a descriptor and its tag
-----------------------------------------------------------------------------------------

section Fields

variable {ι : Type*} {slot tagOf : ι → Option Nat} {expected : ι → Nat → IoCb η} {s : ι}
  {fd : Nat}

/-- The live tags are exactly those next to a field that holds a descriptor. The tag next to an
empty field may be a stale one.
-/
structure Paired (t : IoTags η) (slot tagOf : ι → Option Nat) (expected : ι → Nat → IoCb η)
    : Prop where
  sound : t.Sound
  exact : t.tags.stray = 0
  old : ∀ s tag, tagOf s = some tag → tag < t.tags.created
  apart : ∀ s other tag, tagOf s = some tag → tagOf other = some tag → s = other
  present
    : ∀ s fd tag,
        slot s = some fd
        → tagOf s = some tag
        → ∃ item, t.items tag = some item ∧ item.cb = expected s fd
  owned
    : ∀ tag item, t.items tag = some item → ∃ s fd, slot s = some fd ∧ tagOf s = some tag

theorem paired_initial (user : Bool) (untagged : ∀ s, tagOf s = none)
    : ({ user } : IoTags η).Paired slot tagOf expected where
  sound := sound_initial user
  exact := rfl
  old := by simp [untagged]
  apart := by simp [untagged]
  present := by simp [untagged]
  owned := by simp

theorem Paired.congr (paired : t.Paired slot tagOf expected) {slot' tagOf' : ι → Option Nat}
    {expected' : ι → Nat → IoCb η} (slots : ∀ s, slot' s = slot s)
    (tags : ∀ s, tagOf' s = tagOf s ∨ (slot s = none ∧ tagOf' s = none))
    (cbs : ∀ s fd, tagOf' s ≠ none → expected' s fd = expected s fd)
    : t.Paired slot' tagOf' expected' := by
  have sameSlots : slot' = slot := funext slots
  subst sameSlots
  have kept (s : ι) (tag : Nat) (mine : tagOf' s = some tag) : tagOf s = some tag := by
    rcases tags s with same | ⟨_, forgotten⟩
    · rw [← same, mine]
    · rw [forgotten] at mine
      cases mine
  refine ⟨paired.sound, paired.exact, ?_, ?_, ?_, ?_⟩
  · intro s tag mine
    exact paired.old s tag (kept s tag mine)
  · intro s other tag mine mine'
    exact paired.apart s other tag (kept s tag mine) (kept other tag mine')
  · intro s fd tag held mine
    obtain ⟨item, found, same⟩ := paired.present s fd tag held (kept s tag mine)
    refine ⟨item, found, ?_⟩
    rw [same, cbs s fd (by simp [mine])]
  · intro tag item found
    obtain ⟨s, fd, held, mine⟩ := paired.owned tag item found
    refine ⟨s, fd, held, ?_⟩
    rcases tags s with same | ⟨empty, _⟩
    · rw [same, mine]
    · rw [empty] at held
      cases held

theorem Paired.relocate (paired : t.Paired slot tagOf expected) (untagged : ∀ s, tagOf s = none)
    {slot' tagOf' : ι → Option Nat} (untagged' : ∀ s, tagOf' s = none)
    (expected' : ι → Nat → IoCb η)
    : t.Paired slot' tagOf' expected' where
  sound := paired.sound
  exact := paired.exact
  old := by simp [untagged']
  apart := by simp [untagged']
  present := by simp [untagged']
  owned := by
    intro tag item found
    obtain ⟨s, fd, _, mine⟩ := paired.owned tag item found
    rw [untagged] at mine
    cases mine

theorem Paired.balanced (paired : t.Paired slot tagOf expected) (empty : ∀ s, slot s = none)
    : t.tags.Balanced ∧ t.app.Balanced := by
  have none (tag : Nat) (item : IoTag η) (found : t.items tag = some item) : False := by
    obtain ⟨s, fd, held, _⟩ := paired.owned tag item found
    rw [empty] at held
    cases held
  rw [Ledger.balanced_iff, Ledger.balanced_iff]
  refine ⟨⟨?_, paired.exact⟩, ?_, paired.sound.exact⟩
  · intro tag live
    obtain ⟨item, found⟩ := (paired.sound.live tag).mp live
    exact none tag item found
  · intro userTag live
    obtain ⟨tag, item, found, _⟩ := (paired.sound.userLive userTag).mp live
    exact none tag item found

variable [DecidableEq ι]

theorem Paired.untagged (paired : t.Paired slot tagOf expected) (untagged : tagOf s = none)
    (value : Option Nat)
    : t.Paired (Function.update slot s value) tagOf expected := by
  have other (place : ι) (tag : Nat) (mine : tagOf place = some tag) : place ≠ s := by
    rintro rfl
    rw [untagged] at mine
    cases mine
  refine ⟨paired.sound, paired.exact, paired.old, paired.apart, ?_, ?_⟩
  · intro place fd tag held mine
    rw [Function.update_of_ne (other place tag mine)] at held
    exact paired.present place fd tag held mine
  · intro tag item found
    obtain ⟨place, fd, held, mine⟩ := paired.owned tag item found
    refine ⟨place, fd, ?_, mine⟩
    rw [Function.update_of_ne (other place tag mine), held]

theorem Paired.remove (paired : t.Paired slot tagOf expected) (held : slot s = some fd)
    (mine : tagOf s = some tag)
    : (t.remove tag).Paired (Function.update slot s none) tagOf expected := by
  obtain ⟨item, found, _⟩ := paired.present s fd tag held mine
  have live : t.tags.Live tag := (paired.sound.live tag).mpr ⟨item, found⟩
  refine ⟨paired.sound.remove found, ?_, ?_, paired.apart, ?_, ?_⟩
  · rw [tags_remove, Ledger.stray_release live, paired.exact]
  · intro place other mine'
    rw [tags_remove, Ledger.created_release]
    exact paired.old place other mine'
  · intro place number other held' mine'
    by_cases same : place = s
    · rw [same, Function.update_self] at held'
      cases held'
    · rw [Function.update_of_ne same] at held'
      obtain ⟨entry, found', equal⟩ := paired.present place number other held' mine'
      refine ⟨entry, items_remove_eq_some.mpr ⟨found', ?_⟩, equal⟩
      rintro rfl
      exact same (paired.apart place s other mine' mine)
  · intro other entry found'
    obtain ⟨old, apart⟩ := items_remove_eq_some.mp found'
    obtain ⟨place, number, held', mine'⟩ := paired.owned other entry old
    refine ⟨place, number, ?_, mine'⟩
    rw [Function.update_of_ne, held']
    rintro rfl
    rw [mine] at mine'
    cases mine'
    exact apart rfl

theorem Paired.added (paired : t.Paired slot tagOf expected) (fd : Nat)
    (free : slot s = none ∨ tagOf s = none)
    : (t.added (expected s fd)).Paired (Function.update slot s (some fd))
        (Function.update tagOf s (some t.tags.created)) expected := by
  have sound := paired.sound
  have fresh (place : ι) (mine : tagOf place = some t.tags.created) : False :=
    Nat.lt_irrefl _ (paired.old place _ mine)
  refine ⟨sound.added _, paired.exact, ?_, ?_, ?_, ?_⟩
  · intro place tag mine
    by_cases same : place = s
    · rw [same, Function.update_self] at mine
      cases mine
      exact Nat.lt_succ_self _
    · rw [Function.update_of_ne same] at mine
      exact Nat.lt_succ_of_lt (paired.old place tag mine)
  · intro place other tag mine mine'
    rw [Function.update_apply] at mine mine'
    split at mine <;> split at mine'
    · next same same' => rw [same, same']
    · cases mine
      exact (fresh other mine').elim
    · cases mine'
      exact (fresh place mine).elim
    · exact paired.apart place other tag mine mine'
  · intro place number tag held mine
    simp only [sound.items_added]
    by_cases same : place = s
    · subst same
      rw [Function.update_self] at held mine
      cases held
      cases mine
      exact ⟨_, Or.inr ⟨rfl, rfl⟩, rfl⟩
    · rw [Function.update_of_ne same] at held mine
      obtain ⟨item, found, equal⟩ := paired.present place number tag held mine
      exact ⟨item, Or.inl found, equal⟩
  · intro tag item found
    rcases sound.items_added.mp found with old | ⟨rfl, _⟩
    · obtain ⟨place, number, held, mine⟩ := paired.owned tag item old
      have other : place ≠ s := by
        rintro rfl
        rcases free with empty | untagged
        · rw [empty] at held
          cases held
        · rw [untagged] at mine
          cases mine
      exact ⟨place, number, by rw [Function.update_of_ne other, held],
        by rw [Function.update_of_ne other, mine]⟩
    · exact ⟨s, fd, Function.update_self _ _ _, Function.update_self _ _ _⟩

end Fields

end IoTags

end Gpgme
