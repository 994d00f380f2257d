import Gpgme.Keylist.Tracking
import Gpgme.Lib.SignaledQueue
import Gpgme.Wait.Listing

/-! The key queue. The colon line handler puts a key at its end when the keyblock is complete, and
`gpgme_op_keylist_next` takes keys from its front, so that the application gets the keys of the
listing in their order.
-/

namespace Gpgme

open CString Fallible FaultMachine SignaledQueue Wait

-----------------------------------------------------------------------------------------
-- The operation
-----------------------------------------------------------------------------------------

/-- `keylist_status_handler`; it always returns 0. -/
def keylistStatusHandler (opd : KeylistData) (code : StatusCode) (args : Str) : KeylistData :=
  match code with
  | .truncated => { opd with truncated := true }
  | .error =>
      let (err, args) := parseFailure args
      if opd.keydbSearchErr = 0 ∧ args = str "keydb_search" then
        { opd with keydbSearchErr := err }
      else opd
  | _ => opd

namespace KeylistData

/-- The end of `gpgme_op_keylist_next`, from the assertion on. -/
def takeKey (opd : KeylistData) : Except ListingFault (NextResult Key × KeylistData) :=
  match opd.keyQueue with
  | [] => .error .assertion
  | key :: rest =>
      .ok (.item key,
        { opd with keyQueue := rest, keyCond := if rest = [] then false else opd.keyCond })

/-- What `gpgme_op_keylist_next` does after it has waited. -/
def afterWait (opd : KeylistData) : Except ListingFault (NextResult Key × KeylistData) :=
  if opd.keyCond then takeKey { opd with keyCond := false }
  else if opd.keydbSearchErr ≠ 0 then .ok (.stopped opd.keydbSearchErr, opd)
  else .ok (.stopped (gpgError ErrCode.eof), opd)

end KeylistData

/-- The key listing. -/
def keylistOp (ctx : KeylistCtx) (memory : Uninitialized) : ListOp KeylistData Key where
  colonHandler := fun opd line => (keylistColonHandler ctx memory opd line).map Prod.snd
  statusHandler := keylistStatusHandler
  queue := KeylistData.keyQueue
  cond := KeylistData.keyCond
  take := KeylistData.takeKey
  afterWait := KeylistData.afterWait

-----------------------------------------------------------------------------------------
-- Keyblocks
-----------------------------------------------------------------------------------------

/-- The histories at the ends of the keyblocks, one for each record that starts a keyblock. -/
def keyblockEnds : List Str → List (List Str)
  | [] => []
  | line :: history =>
      if startsKeyblock line then keyblockEnds history ++ [line :: history]
      else (keyblockEnds history).modifyLast fun _ => line :: history

/-- The key that the handler has built after the lines of a history. -/
def keyblock (ctx : KeylistCtx) (memory : Uninitialized) (history : List Str) : Option Key :=
  (keylistRun ctx memory {} (history.reverse.map some)).bind KeylistData.tmpKey

/-- The keyblocks of a listing. -/
def keyblocks (ctx : KeylistCtx) (memory : Uninitialized) (lines : List Str)
    : List (Option Key) :=
  (keyblockEnds lines.reverse).map (keyblock ctx memory)

theorem length_keyblockEnds (history : List Str)
    : (keyblockEnds history).length = history.countP startsKeyblock := by
  induction history with
  | nil => rfl
  | cons line history ih =>
      rw [keyblockEnds, List.countP_cons]
      split
      · next starts => simp [ih]
      · next other => simp [length_modifyLast, ih]

-----------------------------------------------------------------------------------------
-- The handler and the queue
-----------------------------------------------------------------------------------------

variable {ctx : KeylistCtx} {memory : Uninitialized} {opd other next : KeylistData}

/-- The key that is being built, with the queue and the rest of other operation data; the keys
that were finished are put into the queue.
-/
def KeylistData.graft (opd other : KeylistData) (finished : List Key) : KeylistData :=
  { opd with
    truncated := other.truncated,
    keydbSearchErr := other.keydbSearchErr,
    keyCond := other.keyCond || !finished.isEmpty,
    keyQueue := other.keyQueue ++ finished }

/-- The key that is finished by a record that starts a keyblock. -/
def KeylistData.finishes (opd : KeylistData) (starts : Bool) : List Key :=
  if starts then opd.tmpKey.toList else []

theorem finishKey_graft (opd other : KeylistData)
    : (opd.graft other []).finishKey = opd.finishKey.graft other opd.tmpKey.toList := by
  unfold KeylistData.finishKey KeylistData.graft KeylistData.queueKey
  cases opd.tmpKey <;> simp

/-- A handled line, after which keys are put into the queue of other operation data. -/
def KeylistData.graftResult (other : KeylistData) (finished : List Key)
    (result : GpgError × KeylistData)
    : GpgError × KeylistData :=
  (result.1, result.2.graft other finished)

theorem keylistSwitch_graft (ctx : KeylistCtx) (rectype : Rectype) (fields : Fields)
    (opd other : KeylistData)
    : keylistSwitch ctx rectype fields (opd.graft other [])
      = (keylistSwitch ctx rectype fields opd).map
          (other.graftResult (opd.finishes rectype.startsKey)) := by
  have starts
      : (do
          let key ← newKeyblock ctx rectype fields
          some ((0 : GpgError), { (opd.graft other []).finishKey with tmpKey := some key }))
        = (do
            let key ← newKeyblock ctx rectype fields
            some ((0 : GpgError), { opd.finishKey with tmpKey := some key })).map
              (other.graftResult opd.tmpKey.toList) := by
    rw [finishKey_graft]
    cases newKeyblock ctx rectype fields <;> rfl
  cases rectype with
  | pub => exact starts
  | sec => exact starts
  | crt => exact starts
  | crs => exact starts
  | none => rfl
  | sub | ssb | fpr | grp =>
      simp only [keylistSwitch, Option.bind_eq_bind, Option.map_bind, Function.comp_def,
        Option.map_some]
      rfl
  | uid =>
      simp only [keylistSwitch]
      split
      · simp only [Option.bind_eq_bind, Option.map_bind, Function.comp_def, Option.map_some]
        rfl
      · rfl
  | tfs =>
      simp only [keylistSwitch, KeylistData.graft]
      split
      · rfl
      · simp only [Option.bind_eq_bind, Option.map_bind, Function.comp_def, Option.map_some]
        rfl
  | sig | rev =>
      simp only [keylistSwitch, KeylistData.addSig, KeylistData.graft]
      split
      · rfl
      · simp only [Option.bind_eq_bind, Option.map_bind, Function.comp_def, Option.map_some]
        rfl
  | spk =>
      simp only [keylistSwitch, KeylistData.addSubpacket, KeylistData.graft]
      split
      · rfl
      · simp only [Option.bind_eq_bind, Option.map_bind, Function.comp_def]
        congr 1
        funext key
        congr 1
        funext _
        congr 1
        funext parsed
        rcases parsed with _ | _ | parsed <;> rfl

/-- The key that a call of the handler finishes. -/
def KeylistData.finishedBy (opd : KeylistData) : Option Str → List Key
  | none => opd.tmpKey.toList
  | some line => opd.finishes (startsKeyblock line)

theorem keylistColonHandler_graft (ctx : KeylistCtx) (memory : Uninitialized)
    (opd other : KeylistData) (line : Option Str)
    : keylistColonHandler ctx memory (opd.graft other []) line
      = (keylistColonHandler ctx memory opd line).map
          (other.graftResult (opd.finishedBy line)) := by
  cases line with
  | none =>
      rw [keylistColonHandler, finishKey_graft]
      rfl
  | some line =>
      unfold keylistColonHandler
      simp only [Fields.read_name, Option.bind_eq_bind, Option.bind_some]
      have switched := keylistSwitch_graft ctx
        (rectypeOf (recordName line) opd.tmpKey.isSome) (Fields.ofLine memory line)
        (opd.clearPointers (rectypeOf (recordName line) opd.tmpKey.isSome)) other
      rw [rectypeOf_startsKey] at switched
      exact switched

/-- The same key is being built in the same way. -/
structure KeylistData.SameKey (opd other : KeylistData) : Prop where
  tmpKey : other.tmpKey = opd.tmpKey
  tmpUid : other.tmpUid = opd.tmpUid
  tmpKeysig : other.tmpKeysig = opd.tmpKeysig
  allocated : other.allocated = opd.allocated

theorem KeylistData.SameKey.refl (opd : KeylistData) : opd.SameKey opd := ⟨rfl, rfl, rfl, rfl⟩

theorem KeylistData.SameKey.graft_eq (same : opd.SameKey other) : opd.graft other [] = other := by
  unfold KeylistData.graft
  simp [← same.tmpKey, ← same.tmpUid, ← same.tmpKeysig, ← same.allocated]

theorem KeylistData.SameKey.handled (same : opd.SameKey other) {line : Option Str}
    (handled : (keylistOp ctx memory).colonHandler other line = some next)
    : ∃ built,
        (keylistOp ctx memory).colonHandler opd line = some built
        ∧ built.SameKey next
        ∧ Puts other.keyQueue other.keyCond (opd.finishedBy line) next.keyQueue next.keyCond := by
  have grafted := keylistColonHandler_graft ctx memory opd other line
  rw [same.graft_eq] at grafted
  simp only [keylistOp, grafted, Option.map_map, Option.map_eq_some_iff] at handled ⊢
  obtain ⟨result, found, rfl⟩ := handled
  exact ⟨result.2, ⟨result, found, rfl⟩, ⟨rfl, rfl, rfl, rfl⟩, ⟨rfl, rfl⟩⟩

theorem KeylistData.SameKey.refused (same : opd.SameKey other) {line : Option Str}
    (refused : (keylistOp ctx memory).colonHandler other line = none)
    : (keylistOp ctx memory).colonHandler opd line = none := by
  have grafted := keylistColonHandler_graft ctx memory opd other line
  rw [same.graft_eq] at grafted
  simpa [keylistOp, grafted] using refused

-----------------------------------------------------------------------------------------
-- The handler alone
-----------------------------------------------------------------------------------------

theorem keylistRun_concat (ctx : KeylistCtx) (memory : Uninitialized) (lines : List Str)
    (line : Str)
    : keylistRun ctx memory {} ((lines ++ [line]).map some)
      = (keylistRun ctx memory {} (lines.map some)).bind fun opd =>
          (keylistOp ctx memory).colonHandler opd (some line) := by
  rw [List.map_append, keylistRun_append]
  congr 1
  funext opd
  rw [List.map_singleton, keylistRun_cons]
  unfold keylistOp
  dsimp only
  cases keylistColonHandler ctx memory opd (some line) <;> rfl

theorem keyblock_concat (lines : List Str) (line : Str)
    : keyblock ctx memory (line :: lines.reverse)
      = (keylistRun ctx memory {} ((lines ++ [line]).map some)).bind KeylistData.tmpKey := by
  simp [keyblock]

theorem keyblocks_concat (ctx : KeylistCtx) (memory : Uninitialized) (lines : List Str)
    (line : Str)
    : keyblocks ctx memory (lines ++ [line])
      = if startsKeyblock line then
          keyblocks ctx memory lines ++ [keyblock ctx memory (line :: lines.reverse)]
        else
          (keyblocks ctx memory lines).modifyLast fun _ =>
            keyblock ctx memory (line :: lines.reverse) := by
  unfold keyblocks
  rw [List.reverse_append, List.reverse_singleton, List.singleton_append, keyblockEnds]
  split
  · simp
  · refine map_modifyLast ?_ _
    intro
    rfl

theorem keyblocks_eq_nil {lines : List Str} (none : lines.any startsKeyblock = false)
    : keyblocks ctx memory lines = [] := by
  have count : (keyblockEnds lines.reverse).length = 0 := by
    rw [length_keyblockEnds, List.countP_eq_zero]
    simpa using none
  simp [keyblocks, List.length_eq_zero_iff.mp count]

theorem keys_eq_keyblocks {lines : List Str} {built : KeylistData}
    (ran : keylistRun ctx memory {} (lines.map some) = some built)
    : built.keys.map some = keyblocks ctx memory lines := by
  induction lines using List.reverseRecOn generalizing built with
  | nil =>
      cases ran
      rfl
  | append_singleton lines line ih =>
      have tracks := (start_tracks ctx memory).run ran
      rw [keyblocks_concat, keyblock_concat, ran, Option.bind_some]
      rw [keylistRun_concat] at ran
      obtain ⟨before, ranBefore, handled⟩ := Option.bind_eq_some_iff.mp ran
      have tracksBefore := (start_tracks ctx memory).run ranBefore
      obtain ⟨_, _, _, puts⟩ := (KeylistData.SameKey.refl before).handled handled
      rw [← ih ranBefore, KeylistData.keys, puts.queue]
      have present := tracks.key
      rw [List.reverse_append, List.append_nil, List.reverse_singleton, List.singleton_append,
        List.any_cons] at present
      split
      · next starts =>
          rw [starts, Bool.true_or] at present
          obtain ⟨key, current⟩ := Option.isSome_iff_exists.mp present
          simp [KeylistData.finishedBy, KeylistData.finishes, starts, KeylistData.keys, current]
      · next other =>
          rw [Bool.eq_false_iff.mpr other, Bool.false_or] at present
          have started := tracksBefore.key
          rw [List.append_nil, ← present] at started
          simp only [KeylistData.finishedBy, KeylistData.finishes, other]
          cases current : before.tmpKey with
          | none =>
              rw [current] at started
              rw [← started, List.any_reverse] at present
              have empty : before.keyQueue = [] := by
                have blocks := ih ranBefore
                rw [keyblocks_eq_nil present.symm] at blocks
                simp_all [KeylistData.keys]
              have absent : built.tmpKey = none := by simpa using started.symm
              simp only [KeylistData.keys, empty, current, absent]
              rfl
          | some key =>
              rw [current] at started
              obtain ⟨key', current'⟩ := Option.isSome_iff_exists.mp started.symm
              simp [KeylistData.keys, current, current', List.modifyLast_concat]

theorem keyQueue_eq_keyblocks {lines : List Str} {built : KeylistData}
    (ran : keylistRun ctx memory {} (lines.map some) = some built)
    : built.keyQueue.map some = (keyblocks ctx memory lines).dropLast := by
  rw [← keys_eq_keyblocks ran]
  cases current : built.tmpKey with
  | some key => simp [KeylistData.keys, current]
  | none =>
      have unstarted := ((start_tracks ctx memory).run ran).key
      rw [current, List.append_nil, List.any_reverse] at unstarted
      have blocks := keys_eq_keyblocks ran
      rw [keyblocks_eq_nil unstarted.symm] at blocks
      simp_all [KeylistData.keys]

theorem dropLast_keyblocks_extends (ctx : KeylistCtx) (memory : Uninitialized)
    (lines more : List Str)
    : (keyblocks ctx memory lines).dropLast <+: (keyblocks ctx memory (lines ++ more)).dropLast := by
  induction more using List.reverseRecOn with
  | nil => rw [List.append_nil]
  | append_singleton more line ih =>
      refine ih.trans ?_
      rw [← List.append_assoc, keyblocks_concat]
      split
      · rw [List.dropLast_concat]
        exact List.dropLast_prefix _
      · rcases (keyblocks ctx memory (lines ++ more)).eq_nil_or_concat with
          none | ⟨init, last, whole⟩
        · rw [none]
          exact List.prefix_rfl
        · rw [whole, List.concat_eq_append, List.modifyLast_concat, List.dropLast_concat,
            List.dropLast_concat]

-----------------------------------------------------------------------------------------
-- Runs
-----------------------------------------------------------------------------------------

/-- The first key is taken from the queue, and nothing else of importance changes. -/
structure KeylistData.Takes (opd : KeylistData) (result : NextResult Key) (next : KeylistData)
    : Prop where
  item : ∃ key, result = .item key ∧ opd.keyQueue = key :: next.keyQueue
  same : opd.SameKey next
  cond : next.keyCond = true → next.keyQueue ≠ []

theorem takeKey_takes {result : NextResult Key} (taken : opd.takeKey = .ok (result, next))
    : opd.Takes result next := by
  unfold KeylistData.takeKey at taken
  split at taken
  · cases taken
  · next key rest queue =>
      cases taken
      refine ⟨⟨key, rfl, queue⟩, ⟨rfl, rfl, rfl, rfl⟩, ?_⟩
      dsimp only
      split
      · next empty => simp
      · next more => exact fun _ => more

theorem takeKey_fails {fault : ListingFault} (refused : opd.takeKey = .error fault)
    : opd.keyQueue = [] := by
  unfold KeylistData.takeKey at refused
  split at refused
  · next empty => exact empty
  · cases refused

theorem afterWait_cases {result : NextResult Key} (resumed : opd.afterWait = .ok (result, next))
    : opd.Takes result next
      ∨ ∃ err, result = .stopped err ∧ next = opd ∧ opd.keyCond = false := by
  unfold KeylistData.afterWait at resumed
  split at resumed
  · have takes := takeKey_takes resumed
    exact Or.inl ⟨takes.item, ⟨takes.same.1, takes.same.2, takes.same.3, takes.same.4⟩, takes.cond⟩
  · next cond =>
      refine Or.inr ?_
      split at resumed <;> cases resumed <;> exact ⟨_, rfl, rfl, by simpa using cond⟩

theorem afterWait_fails {fault : ListingFault} (refused : opd.afterWait = .error fault)
    : opd.keyCond = true ∧ opd.keyQueue = [] := by
  unfold KeylistData.afterWait at refused
  split at refused
  · next cond =>
      have empty := takeKey_fails refused
      exact ⟨cond, empty⟩
  · split at refused <;> cases refused

/-- The steps of a key listing that were executed. -/
abbrev KeylistSteps := List (Executed (Listing KeylistData) ListingInput (Option (NextResult Key)))

/-- Whenever the application is told that there are no more keys, it has got all keyblocks,
unless the listing is excused.
-/
def StopsExhausted (ctx : KeylistCtx) (memory : Uninitialized)
    (excused : Listing KeylistData → Bool) (lines : List Str) (history : KeylistSteps)
    : Prop :=
  ∀ before executed after err,
    history = before ++ executed :: after
    → executed.output = some (.stopped err)
    → excused executed.state = false
    → (Listing.returned before).map some = keyblocks ctx memory lines

/-- The operation data that the handler alone has made of the lines. -/
def KeylistData.atEof (opd : KeylistData) (eof : Bool) : KeylistData :=
  if eof then opd.finishKey else opd

/-- The keys that were returned and the queue are what the handler alone has queued, and the
condition says that there are keys.
-/
structure Delivers (ctx : KeylistCtx) (memory : Uninitialized) (lines : List Str)
    (history : KeylistSteps) (state : Listing KeylistData) : Prop where
  attended : state.Attended
  made
    : ∃ read built,
        lines = read ++ state.unread
        ∧ keylistRun ctx memory {} (read.map some) = some built
        ∧ (built.atEof state.eof).SameKey state.opd
        ∧ Listing.returned history ++ state.opd.keyQueue = (built.atEof state.eof).keyQueue
  cond : state.opd.keyCond = true → state.opd.keyQueue ≠ []
  waiting : state.wait.loop ≠ .idle → state.opd.keyQueue ≠ [] → state.opd.keyCond = true
  stops : StopsExhausted ctx memory Listing.canceled lines history

variable {lines : List Str} {history : KeylistSteps} {state : Listing KeylistData}

theorem Delivers.returned_begins (delivers : Delivers ctx memory lines history state)
    : (Listing.returned history).map some <+: keyblocks ctx memory lines := by
  obtain ⟨read, built, whole, ran, _, delivered⟩ := delivers.made
  have queued : (Listing.returned history).map some
      <+: (built.atEof state.eof).keyQueue.map some := by
    rw [← delivered, List.map_append]
    exact List.prefix_append _ _
  refine queued.trans ?_
  cases ended : state.eof with
  | true =>
      have all : lines = read := by rw [whole, delivers.attended.read ended, List.append_nil]
      rw [KeylistData.atEof, if_pos rfl, keyQueue_finishKey, keys_eq_keyblocks ran, all]
  | false =>
      rw [KeylistData.atEof, if_neg (by simp), keyQueue_eq_keyblocks ran, whole]
      exact (dropLast_keyblocks_extends ctx memory read _).trans (List.dropLast_prefix _)

theorem Delivers.unended {line : Str} {rest : List Str}
    (delivers : Delivers ctx memory lines history state) (unread : state.unread = line :: rest)
    : state.eof = false := by
  by_contra ended
  have done := delivers.attended.read (by simpa using ended)
  simp [unread] at done

theorem Delivers.exhausted (delivers : Delivers ctx memory lines history state)
    (ended : state.eof = true) (empty : state.opd.keyQueue = [])
    : (Listing.returned history).map some = keyblocks ctx memory lines := by
  obtain ⟨read, built, whole, ran, _, delivered⟩ := delivers.made
  have all : lines = read := by rw [whole, delivers.attended.read ended, List.append_nil]
  rw [empty, List.append_nil, ended, KeylistData.atEof, if_pos rfl, keyQueue_finishKey]
    at delivered
  rw [delivered, keys_eq_keyblocks ran, all]

theorem StopsExhausted.concat {excused : Listing KeylistData → Bool}
    (stops : StopsExhausted ctx memory excused lines history)
    {executed : Executed (Listing KeylistData) ListingInput (Option (NextResult Key))}
    (now
      : ∀ err,
          executed.output = some (.stopped err)
          → excused executed.state = false
          → (Listing.returned history).map some = keyblocks ctx memory lines)
    : StopsExhausted ctx memory excused lines (history ++ [executed]) := by
  intro before step after err whole
  rcases after.eq_nil_or_concat with rfl | ⟨init, last, rfl⟩
  · obtain ⟨rfl, same⟩ := List.append_inj' whole rfl
    cases same
    exact now err
  · rw [List.concat_eq_append, ← List.cons_append, ← List.append_assoc] at whole
    exact stops before step init err (List.append_inj_left' whole rfl)

theorem finishKey_atEof (opd : KeylistData) (eof : Bool)
    : (opd.atEof eof).finishKey = opd.finishKey := by
  cases eof with
  | false => rfl
  | true =>
      unfold KeylistData.atEof KeylistData.finishKey KeylistData.queueKey
      cases opd.tmpKey <;> rfl

theorem keylistStatusHandler_frame (opd : KeylistData) (code : StatusCode) (args : Str)
    : opd.SameKey (keylistStatusHandler opd code args)
      ∧ (keylistStatusHandler opd code args).keyQueue = opd.keyQueue
      ∧ (keylistStatusHandler opd code args).keyCond = opd.keyCond := by
  unfold keylistStatusHandler
  split
  · exact ⟨⟨rfl, rfl, rfl, rfl⟩, rfl, rfl⟩
  · dsimp only
    split <;> exact ⟨⟨rfl, rfl, rfl, rfl⟩, rfl, rfl⟩
  · exact ⟨⟨rfl, rfl, rfl, rfl⟩, rfl, rfl⟩

theorem KeylistData.SameKey.trans {last : KeylistData} (first : opd.SameKey other)
    (second : other.SameKey last)
    : opd.SameKey last :=
  ⟨second.tmpKey.trans first.tmpKey, second.tmpUid.trans first.tmpUid,
    second.tmpKeysig.trans first.tmpKeysig, second.allocated.trans first.allocated⟩

theorem Delivers.takes {result : NextResult Key} {wait : PrivateWorld} {input : ListingInput}
    (delivers : Delivers ctx memory lines history state)
    (attended : Listing.Attended { state with wait, opd := next })
    (takes : state.opd.Takes result next) (idle : wait.loop = .idle)
    : Delivers ctx memory lines (history ++ [⟨state, input, some result⟩])
        { state with wait, opd := next } := by
  obtain ⟨read, built, whole, ran, same, delivered⟩ := delivers.made
  obtain ⟨key, rfl, queue⟩ := takes.item
  refine ⟨attended, ⟨read, built, whole, ran, same.trans takes.same, ?_⟩, takes.cond,
    fun busy => absurd idle busy, delivers.stops.concat (by simp)⟩
  rw [Listing.returned_concat, ← delivered, queue]
  simp

theorem Delivers.step {input : ListingInput} {output : Option (NextResult Key)}
    {stepped : Listing KeylistData} (delivers : Delivers ctx memory lines history state)
    (attended : stepped.Attended)
    (steps : state.Steps (keylistOp ctx memory) input output stepped)
    : Delivers ctx memory lines (history ++ [⟨state, input, output⟩]) stepped := by
  obtain ⟨read, built, whole, ran, same, delivered⟩ := delivers.made
  cases steps with
  | stays idle waits _ =>
      refine ⟨attended, ⟨read, built, whole, ran, same, ?_⟩, delivers.cond, ?_,
        delivers.stops.concat (by simp)⟩
      · simpa [Listing.returned_concat] using delivered
      · intro busy queued
        by_cases wasIdle : state.wait.loop = .idle
        · exact absurd (waits wasIdle busy) queued
        · exact delivers.waiting wasIdle queued
  | @reads line rest opd busy unread handled =>
      have unended := delivers.unended unread
      rw [unended, KeylistData.atEof, if_neg (by simp)] at same delivered
      obtain ⟨built', handled', same', puts⟩ := same.handled handled
      obtain ⟨_, _, _, puts'⟩ := (KeylistData.SameKey.refl built).handled handled'
      refine ⟨attended, ⟨read ++ [line], built', ?_, ?_, ?_, ?_⟩, puts.nonempty delivers.cond,
        fun _ => puts.signaled (delivers.waiting busy), delivers.stops.concat (by simp)⟩
      · simp [whole, unread]
      · rw [keylistRun_concat, ran, Option.bind_some, handled']
      · rw [unended, KeylistData.atEof, if_neg (by simp)]
        exact same'
      · rw [unended, KeylistData.atEof, if_neg (by simp), puts'.queue, ← delivered, puts.queue]
        simp [Listing.returned_concat]
  | @ends opd wait busy loop unread handled =>
      obtain ⟨built', handled', same', puts⟩ := same.handled handled
      obtain ⟨_, _, _, puts'⟩ := (KeylistData.SameKey.refl _).handled handled'
      have finished : built' = built.finishKey := by
        rw [← finishKey_atEof built state.eof]
        exact (Option.some.inj handled').symm
      rw [finished] at same' puts'
      refine ⟨attended, ⟨read, built, whole, ran, same', ?_⟩, puts.nonempty delivers.cond,
        fun _ => puts.signaled (delivers.waiting busy), delivers.stops.concat (by simp)⟩
      rw [KeylistData.atEof, if_pos rfl, puts'.queue, ← delivered, puts.queue]
      simp [Listing.returned_concat]
  | @status code args busy =>
      obtain ⟨same', queue, cond⟩ := keylistStatusHandler_frame state.opd code args
      refine ⟨attended, ⟨read, built, whole, ran, same.trans same', ?_⟩, ?_, ?_,
        delivers.stops.concat (by simp)⟩
      · simpa [Listing.returned_concat, keylistOp, queue] using delivered
      · simpa [keylistOp, queue, cond] using delivers.cond
      · simpa [keylistOp, queue, cond] using delivers.waiting
  | takes idle queued taken => exact delivers.takes attended (takeKey_takes taken) idle
  | resumes busy idle ready resumed =>
      rcases afterWait_cases resumed with takes | ⟨err, rfl, rfl, unsignaled⟩
      · exact delivers.takes attended takes idle
      · have empty : state.opd.keyQueue = [] := by
          by_contra queued
          have signaled := delivers.waiting busy queued
          rw [unsignaled] at signaled
          cases signaled
        refine ⟨attended, ⟨read, built, whole, ran, same, ?_⟩, delivers.cond,
          fun busy => absurd idle busy, delivers.stops.concat ?_⟩
        · simpa [Listing.returned_concat] using delivered
        · intro _ _ (active : state.canceled = false)
          have ended : state.eof = true := by
            simpa [Listing.Ready, keylistOp, unsignaled, active] using ready
          exact delivers.exhausted ended empty
  | fails idle failed =>
      refine ⟨attended, ⟨read, built, whole, ran, same, ?_⟩, delivers.cond,
        fun busy => absurd idle busy, delivers.stops.concat (by simp)⟩
      simpa [Listing.returned_concat] using delivered

theorem Delivers.colon_fails (delivers : Delivers ctx memory lines history state)
    (refused : (keylistOp ctx memory).colonHandler state.opd state.unread.head? = none)
    : ∃ index, memory.slot index = none := by
  by_contra readable
  simp only [not_exists, ← Option.isSome_iff_ne_none] at readable
  obtain ⟨read, built, _, ran, same, _⟩ := delivers.made
  have alone := same.refused refused
  cases unread : state.unread with
  | nil =>
      rw [unread] at alone
      cases alone
  | cons line rest =>
      rw [unread, List.head?_cons, delivers.unended unread, KeylistData.atEof, if_neg (by simp)]
        at alone
      have covered : Covered memory (read.reverse ++ []) line :=
        ⟨fun _ _ => readable 17, fun _ _ _ => readable 4⟩
      obtain ⟨result, handled, _⟩ := ((start_tracks ctx memory).run ran).step covered
      simp [keylistOp, handled] at alone

theorem Delivers.faults {fault : ListingFault} (delivers : Delivers ctx memory lines history state)
    (faults : state.Faults (keylistOp ctx memory) fault)
    : fault = .access ∧ ∃ index, memory.slot index = none := by
  cases faults with
  | colon refused => exact ⟨rfl, delivers.colon_fails refused⟩
  | take queued refused => exact absurd (takeKey_fails refused) queued
  | afterWait ready refused =>
      obtain ⟨cond, empty⟩ := afterWait_fails refused
      exact absurd empty (delivers.cond cond)

theorem start_delivers (ctx : KeylistCtx) (memory : Uninitialized) (waitCtx : Nat)
    (context : Context) (fds : List (Nat × Nat)) (colonFd : Nat) (lines : List Str)
    : Delivers ctx memory lines [] (Listing.start waitCtx context fds colonFd {} lines) where
  attended := Listing.start_attended waitCtx context fds colonFd _ lines
  made := ⟨[], {}, rfl, rfl, ⟨rfl, rfl, rfl, rfl⟩, rfl⟩
  cond := by simp [Listing.start]
  waiting := by simp [Listing.start]
  stops := by
    intro before executed after err whole
    simp at whole

/-- A key listing with its event loop and the calls of the application. -/
def keylistSession (ctx : KeylistCtx) (memory : Uninitialized) (waitCtx : Nat)
    (context : Context) (fds : List (Nat × Nat)) (colonFd : Nat) (lines : List Str)
    (inputs : List ListingInput)
    : KeylistSteps × Except ListingFault (Listing KeylistData) :=
  run (Listing.step (keylistOp ctx memory)) (Listing.start waitCtx context fds colonFd {} lines)
    inputs

/-- In every run the application gets keyblocks in order, it is told that there are no more only
after all of them or after the listing was canceled, and the assertion that there is a key does
not fail.
-/
theorem keylist_next_delivers (ctx : KeylistCtx) (memory : Uninitialized) (waitCtx : Nat)
    (context : Context) (fds : List (Nat × Nat)) (colonFd : Nat) (lines : List Str)
    (inputs : List ListingInput)
    : (keyblocks ctx memory lines).length = lines.countP startsKeyblock
      ∧ (Listing.returned
          (keylistSession ctx memory waitCtx context fds colonFd lines inputs).1).map some
        <+: keyblocks ctx memory lines
      ∧ StopsExhausted ctx memory Listing.canceled lines
          (keylistSession ctx memory waitCtx context fds colonFd lines inputs).1
      ∧ ∀ fault,
          (keylistSession ctx memory waitCtx context fds colonFd lines inputs).2 = .error fault
          → fault = .access ∧ ∃ index, memory.slot index = none := by
  obtain ⟨⟨last, delivers⟩, faults⟩ := Listing.run_holds (keylistOp ctx memory)
    (Delivers ctx memory lines)
    (fun fault => fault = ListingFault.access ∧ ∃ index, memory.slot index = none)
    Delivers.attended Delivers.faults (fun delivers _ => delivers.step)
    (start_delivers ctx memory waitCtx context fds colonFd lines)
    (along_of_forall (fun _ _ => trivial) inputs)
  refine ⟨?_, delivers.returned_begins, delivers.stops, faults⟩
  rw [keyblocks, List.length_map, length_keyblockEnds, List.countP_reverse]

/-- A listing of one key. -/
def oneKey : List Str := [str "pub:u:2048:1:68697734D3E2C6F5"]

/-- Memory that holds nothing. -/
def wiped : Uninitialized where
  slot := fun _ => none
  buffer := fun _ => 0

/-- The callback of the lines fails, which is reported, and the application asks again. -/
def failedCallback : List ListingInput := [
  .next, .select (.ok [0]), .dispatch .ready, .callbackReturns (gpgError ErrCode.enomem),
  .next, .select (.ok []), .dispatch .ready, .scan]

def failedSteps : KeylistSteps :=
  (keylistSession {} wiped 0 { events := .other } [] 3 oneKey failedCallback).1

/-- The application is told that there are no more keys, and has not got the only one. -/
theorem keylist_stops_early
    : ¬ ∀ (ctx : KeylistCtx) (memory : Uninitialized) (waitCtx : Nat) (context : Context)
          (fds : List (Nat × Nat)) (colonFd : Nat) (lines : List Str)
          (inputs : List ListingInput),
          StopsExhausted ctx memory (fun _ => false) lines
            (keylistSession ctx memory waitCtx context fds colonFd lines inputs).1 := by
  intro claimed
  have stops : StopsExhausted {} wiped (fun _ => false) oneKey failedSteps :=
    claimed {} wiped 0 { events := .other } [] 3 oneKey failedCallback
  have executed : failedSteps ≠ [] := List.ne_nil_of_length_pos (by decide +kernel)
  have stopped
      : (failedSteps.getLast executed).output = some (.stopped (gpgError ErrCode.eof)) := rfl
  have exhausted := stops _ _ [] _ (List.dropLast_append_getLast executed).symm stopped rfl
  have lengths := congrArg List.length exhausted
  rw [keyblocks, List.length_map, List.length_map, length_keyblockEnds] at lengths
  exact absurd lengths (by decide +kernel)

end Gpgme
