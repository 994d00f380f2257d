import Gpgme.Assuan.Channels

/-! The operations of `engine-gpgsm.c` as sequences of calls, and the runs of one engine: operations
one after the other, with the closes of the I/O callbacks and the files of others in between.
-/

namespace Gpgme.Channels

open CString

-----------------------------------------------------------------------------------------
-- Operations
-----------------------------------------------------------------------------------------

/-- What `gpgsm_import` takes from a key. -/
structure ImportKey where
  cms : Bool
  fpr : Option Str

/-- The fingerprints of the keys that are imported, each with a line feed. -/
def importText (keyarray : List ImportKey) : Str :=
  keyarray.flatMap fun key => if key.cms ∧ key.fpr.getD [] ≠ [] then key.fpr.getD [] ++ [10] else []

namespace Steps

/-- The loop of `set_recipients`, with the length of the memory for the line. -/
def sendRecipients : List (Option Str) → Nat → Nat → Steps GpgError
  | [], _, invalid => pure (if invalid ≠ 0 then gpgError ErrCode.unusablePubkey else 0)
  | none :: rest, linelen, invalid => sendRecipients rest linelen (invalid + 1)
  | some fpr :: rest, linelen, invalid => do
      let newlen := 11 + fpr.length
      let failed ← if linelen < newlen then malloc else pure 0
      if failed ≠ 0 then return failed
      let err ← command (Assuan.recipientCommand fpr)
      if gpgErrCode err = ErrCode.noPubkey then return gpgError ErrCode.unusablePubkey
      if err ≠ 0 then return err
      sendRecipients rest (max linelen newlen) invalid

/-- `set_recipients`. -/
def setRecipients (recp : List (Option Str)) : Steps GpgError := do
  let failed ← malloc
  if failed ≠ 0 then return failed
  sendRecipients recp (10 + 40 + 1) 0

/-- The option with which `gpgsm_sign` begins, unless the default is asked for. -/
def sendIncludeCerts (includeCerts : Option Str) : Steps GpgError :=
  match includeCerts with
  | none => pure 0
  | some count => do
      let failed ← malloc
      if failed ≠ 0 then return failed
      command (GpgsmCommand.includeCerts count).line

/-- The loop of `gpgsm_sign` over the signers. -/
def sendSigners : List (Option Str) → Steps GpgError
  | [] => pure 0
  | none :: _ => pure (gpgError ErrCode.invValue)
  | some fpr :: rest => do
      if 80 ≤ fpr.length then return gpgError ErrCode.invValue
      let err ← command (GpgsmCommand.signer fpr).line
      if err ≠ 0 then return err
      sendSigners rest

end Steps

/-- The operations with their arguments. A number that is only sent is given by its text, and a
default that is not sent is `none`.
-/
inductive Operation where
  | decrypt (ciph plain : Option DataObject)
  | delete (fpr : Option Str)
  | encrypt (recp : Option (List (Option Str))) (noEncryptTo : Bool)
      (plain ciph : Option DataObject) (useArmor : Bool)
  | exportKeys (pattern : Option Str) (mode : Nat) (keydata : Option DataObject) (useArmor : Bool)
  | exportExt (patterns : List Str) (mode : Nat) (keydata : Option DataObject) (useArmor : Bool)
  | genkey (helpData pubkey seckey : Option DataObject) (useArmor : Bool)
  | importKeys (keydata : Option DataObject) (keyarray : Option (List ImportKey))
  | keylist (args : ListingArgs) (pattern : Option Str)
  | keylistExt (args : ListingArgs) (patterns : List Str) (reserved : Bool)
  | sign (input output : Option DataObject) (detached useArmor : Bool) (includeCerts : Option Str)
      (signers : List (Option Str))
  | verify (sig signedText plaintext : Option DataObject)
  | getauditlog (output : Option DataObject) (diag html : Bool)

/-- The argument of the output channel. -/
def outputOption (useArmor : Bool) (data : Option DataObject) : Option Str :=
  if useArmor then some (str "--armor") else mapDataEnc data

namespace Operation

open Steps

/-- `gpgsm_decrypt`. -/
def decryptSteps (origin : Str) (ciph plain : Option DataObject) : Steps GpgError := do
  let err ← setFd .input ciph (mapDataEnc ciph)
  if err ≠ 0 then return gpgError ErrCode.general
  let err ← setFd .output plain none
  if err ≠ 0 then return gpgError ErrCode.general
  clearFd .message
  start origin GpgsmCommand.decrypt.line

/-- `gpgsm_delete`. -/
def deleteSteps (origin : Str) (fpr : Option Str) : Steps GpgError :=
  match fpr with
  | none => pure (gpgError ErrCode.invValue)
  | some fpr => do
      let failed ← malloc
      if failed ≠ 0 then return failed
      clearFd .output
      clearFd .input
      clearFd .message
      start origin (GpgsmCommand.delkeys (fpr.flatMap escapeChar)).line

/-- `gpgsm_encrypt`; without an array of recipients nothing is done. -/
def encryptSteps (origin : Str) (recp : Option (List (Option Str))) (noEncryptTo : Bool)
    (plain ciph : Option DataObject) (useArmor : Bool)
    : Steps GpgError :=
  match recp with
  | none => pure (gpgError ErrCode.notImplemented)
  | some recp => do
      let err ← if noEncryptTo then command GpgsmCommand.noEncryptTo.line else pure 0
      if err ≠ 0 then return err
      let err ← setFd .input plain (mapDataEnc plain)
      if err ≠ 0 then return err
      let err ← setFd .output ciph (outputOption useArmor ciph)
      if err ≠ 0 then return err
      clearFd .message
      let err ← setRecipients recp
      andThen err (start origin GpgsmCommand.encrypt.line)

/-- The end of `gpgsm_export` and `gpgsm_export_ext`, behind the memory for the line. -/
def sendExport (origin line : Str) (keydata : Option DataObject) (useArmor : Bool)
    : Steps GpgError := do
  let err ← setFd .output keydata (outputOption useArmor keydata)
  if err ≠ 0 then return err
  clearFd .input
  clearFd .message
  start origin line

/-- `gpgsm_export`, which sends its pattern as it is. -/
def exportSteps (origin : Str) (pattern : Option Str) (mode : Nat) (keydata : Option DataObject)
    (useArmor : Bool)
    : Steps GpgError := do
  let failed ← malloc
  if failed ≠ 0 then return failed
  sendExport origin ((PatternCommand.exportExt mode).start ++ pattern.getD []) keydata useArmor

/-- `gpgsm_export_ext`. -/
def exportExtSteps (origin : Str) (patterns : List Str) (mode : Nat) (keydata : Option DataObject)
    (useArmor : Bool)
    : Steps GpgError := do
  let failed ← malloc
  if failed ≠ 0 then return failed
  sendExport origin ((PatternCommand.exportExt mode).text patterns) keydata useArmor

/-- `gpgsm_genkey`. -/
def genkeySteps (origin : Str) (helpData pubkey seckey : Option DataObject) (useArmor : Bool)
    : Steps GpgError :=
  match helpData with
  | none => pure (gpgError ErrCode.notImplemented)
  | some helpData =>
      if pubkey.isNone ∨ seckey.isSome then pure (gpgError ErrCode.invValue)
      else do
        let err ← setFd .input (some helpData) (mapDataEnc (some helpData))
        if err ≠ 0 then return err
        let err ← setFd .output pubkey (outputOption useArmor pubkey)
        if err ≠ 0 then return err
        clearFd .message
        start origin GpgsmCommand.genkey.line

/-- `gpgsm_import`. -/
def importSteps (origin : Str) (keydata : Option DataObject) (keyarray : Option (List ImportKey))
    : Steps GpgError :=
  match keyarray with
  | some keyarray =>
      if keydata.isSome then pure (gpgError ErrCode.invValue)
      else do
        let err ← command GpgsmCommand.cmdHasOption.line
        if err ≠ 0 then return gpgError ErrCode.notSupported
        let failed ← malloc
        if failed ≠ 0 then return failed
        let text := importText keyarray
        let err ← .request (.newHelper text)
        if err ≠ 0 then return err
        let err ← setFd .input (some (.helper text)) (mapDataEnc (some (.helper text)))
        if err ≠ 0 then
          let _ ← .request .releaseHelper
          return err
        clearFd .output
        clearFd .message
        start origin (GpgsmCommand.importKeys true).line
  | none =>
      if dataGetEncoding keydata ∈ [.url, .url0, .urlesc] then
        pure (gpgError ErrCode.notImplemented)
      else do
        let err ← setFd .input keydata (mapDataEnc keydata)
        if err ≠ 0 then return err
        clearFd .output
        clearFd .message
        start origin (GpgsmCommand.importKeys false).line

/-- The part of the two listing functions behind the agent check: the options, of which only the
first is looked at, and the listing.
-/
def sendListing (origin : Str) (args : ListingArgs) (flags : List Str) (line : Str)
    : Steps GpgError := do
  let failed ← malloc
  if failed ≠ 0 then return failed
  let err ← command (optionLine optionListMode (listModeValue args.mode))
  if err ≠ 0 then return err
  .requests (flags.map .command)
  let failed ← malloc
  if failed ≠ 0 then return failed
  clearFd .input
  clearFd .output
  clearFd .message
  start origin line

/-- `gpgsm_keylist`. -/
def keylistSteps (origin : Str) (args : ListingArgs) (pattern : Option Str) : Steps GpgError := do
  .requests (args.agentLines.map .command)
  sendListing origin args
    [flagLine optionValidation (hasBit args.mode KeylistMode.validate),
      flagLine optionEphemeral (hasBit args.mode KeylistMode.ephemeral),
      flagLine optionSecret (hasBit args.mode KeylistMode.withSecret),
      flagLine optionOffline (hasBit args.engineFlags engineFlagOffline)]
    (gpgsmKeylistLine args pattern)

/-- `gpgsm_keylist_ext`. -/
def keylistExtSteps (origin : Str) (args : ListingArgs) (patterns : List Str) (reserved : Bool)
    : Steps GpgError :=
  if reserved then pure (gpgError ErrCode.invValue)
  else
    sendListing origin args
      [flagLine optionValidation (hasBit args.mode KeylistMode.validate),
        flagLine optionSecret (hasBit args.mode KeylistMode.withSecret),
        flagLine optionOffline (hasBit args.engineFlags engineFlagOffline)]
      ((PatternCommand.keylistExt args.secretOnly).text patterns)

/-- `gpgsm_sign`. -/
def signSteps (origin : Str) (input output : Option DataObject) (detached useArmor : Bool)
    (includeCerts : Option Str) (signers : List (Option Str))
    : Steps GpgError := do
  let err ← sendIncludeCerts includeCerts
  if err ≠ 0 then return err
  let err ← sendSigners signers
  if err ≠ 0 then return err
  let err ← setFd .input input (mapDataEnc input)
  if err ≠ 0 then return err
  let err ← setFd .output output (outputOption useArmor output)
  if err ≠ 0 then return err
  clearFd .message
  start origin (GpgsmCommand.sign detached).line

/-- `gpgsm_verify`. -/
def verifySteps (origin : Str) (sig signedText plaintext : Option DataObject)
    : Steps GpgError := do
  let err ← setFd .input sig (mapDataEnc sig)
  if err ≠ 0 then return err
  let err ←
    match signedText, plaintext with
    | none, some plaintext => do
        let err ← setFd .output (some plaintext) none
        clearFd .message
        pure err
    | none, none => do
        clearFd .output
        clearFd .message
        pure 0
    | some text, _ => do
        let err ← setFd .message (some text) none
        clearFd .output
        pure err
  andThen err (start origin GpgsmCommand.verify.line)

/-- `gpgsm_getauditlog`. -/
def getauditlogSteps (origin : Str) (output : Option DataObject) (diag html : Bool)
    : Steps GpgError :=
  if output.isNone then pure (gpgError ErrCode.invValue)
  else if diag then pure (gpgError ErrCode.notImplemented)
  else do
    let err ← setFd .output output none
    if err ≠ 0 then return err
    clearFd .input
    clearFd .message
    start origin (GpgsmCommand.getauditlog html).line

/-- The calls of an operation, for the origin of requests that is set in the engine. -/
def steps (origin : Str) : Operation → Steps GpgError
  | decrypt ciph plain => decryptSteps origin ciph plain
  | delete fpr => deleteSteps origin fpr
  | encrypt recp noEncryptTo plain ciph useArmor =>
      encryptSteps origin recp noEncryptTo plain ciph useArmor
  | exportKeys pattern mode keydata useArmor => exportSteps origin pattern mode keydata useArmor
  | exportExt patterns mode keydata useArmor => exportExtSteps origin patterns mode keydata useArmor
  | genkey helpData pubkey seckey useArmor => genkeySteps origin helpData pubkey seckey useArmor
  | importKeys keydata keyarray => importSteps origin keydata keyarray
  | keylist args pattern => keylistSteps origin args pattern
  | keylistExt args patterns reserved => keylistExtSteps origin args patterns reserved
  | sign input output detached useArmor includeCerts signers =>
      signSteps origin input output detached useArmor includeCerts signers
  | verify sig signedText plaintext => verifySteps origin sig signedText plaintext
  | getauditlog output diag html => getauditlogSteps origin output diag html

end Operation

-----------------------------------------------------------------------------------------
-- Runs
-----------------------------------------------------------------------------------------

/-- What happens to an engine and in its process: an operation, with the answers of its calls; a
new origin of requests; the close of a registered descriptor, by its callback or by the event
loop; the end of the status lines; `gpgsm_cancel`; and files that somebody else opens and closes.
-/
inductive Event where
  | operation (operation : Operation) (answers : List GpgError)
  | engineFlags (origin : Str)
  | io (tag : Nat)
  | statusDone
  | cancel
  | othersOpen
  | othersClose (fd : Nat)

namespace World

variable (w : World)

/-- An operation begins. -/
def begin (answers : List GpgError) : World :=
  { w with
    answers
    history := {
      w.history with
      operation := w.history.operation + 1
      openBefore :=
        [FdType.input, .output, .message].filter fun c => (w.cb (.channel c)).fd.isSome } }

/-- A registered descriptor is closed while it is what was registered. -/
def ioEvent (tag : Nat) : World :=
  match w.history.registrations[tag]? with
  | none => w
  | some registration =>
      if tag ∈ w.watched ∧ w.ends.fds.files registration.fd = registration.file then
        w.ioClose (some registration.fd)
      else w

/-- An event, with the result of an operation. -/
def step (w : World) : Event → GpgError × World
  | .operation operation answers =>
      (operation.steps w.requestOrigin).run World.call (w.begin answers)
  | .engineFlags origin => (0, { w with requestOrigin := origin })
  | .io tag => (0, w.ioEvent tag)
  | .statusDone => (0, w.ioClose (w.cb .status).fd)
  | .cancel => (0, w.cancel)
  | .othersOpen => (0, { w with ends := w.ends.openOther, foreign := w.ends.number :: w.foreign })
  | .othersClose fd =>
      (0, { w with ends := w.ends.closeOther fd, foreign := w.foreign.filter (· ≠ fd) })

/-- The engine after a run. -/
def after (others : Descriptors Unit) (events : List Event) : World :=
  (Machine.runTotal step (new others) events).2

end World

-----------------------------------------------------------------------------------------
-- What an engine must not do
-----------------------------------------------------------------------------------------

/-- The callback got a data object and the end of a pipe that its own operation has given to the
channel.
-/
def Registration.Own (registration : Registration) (assignments : List Assignment) : Prop :=
  ∃ assignment ∈ assignments,
    assignment.operation = registration.operation
    ∧ .channel assignment.channel = registration.callback
    ∧ assignment.data = registration.data
    ∧ registration.file = some (some assignment.pipeEnd)

instance (registration : Registration) (assignments : List Assignment)
    : Decidable (registration.Own assignments) :=
  inferInstanceAs (Decidable (∃ _ ∈ _, _))

/-- So far the engine moved only its own data and closed only its own descriptors: every callback
of a channel is its operation's own, every close met an open end of a pipe or the duplicate of the
status descriptor, and what others have opened is open.
-/
structure World.OwnOnly (w : World) : Prop where
  registered
    : ∀ registration ∈ w.history.registrations,
        registration.callback = .status ∨ registration.Own w.history.assignments
  exact : w.ends.ledger.stray = 0
  foreignOpen : ∀ fd ∈ w.foreign, w.ends.fds.files fd = some none

/-- Every end of a pipe that `gpgsm_set_fd` made has been closed exactly once. -/
def World.AllClosed (w : World) : Prop :=
  ∀ id ∈ w.history.made, w.ends.ledger.released.count id = 1

instance (w : World) : Decidable w.AllClosed := inferInstanceAs (Decidable (∀ _ ∈ _, _))

/-- The engine behaves up to here and when it is released. -/
structure World.Behaves (w : World) : Prop where
  now : w.OwnOnly
  released : w.release.OwnOnly
  allClosed : w.release.AllClosed

/-- A call does none of these: give a channel a data object that has a descriptor, make a pipe for
a channel that is open, or register a channel that was open before the operation.
-/
def World.Clean (w : World) : Call → Prop
  | .setFd channel data _ =>
      dataGetFd data = none ∧ (w.nextAnswer = 0 → (w.cb (.channel channel)).fd = none)
  | .addIoCb (.channel channel) =>
      (w.cb (.channel channel)).fd ≠ none → w.nextAnswer = 0 → channel ∉ w.history.openBefore
  | _ => True

instance (w : World) : (call : Call) → Decidable (w.Clean call)
  | .setFd _ _ _ => inferInstanceAs (Decidable (_ ∧ (_ → _)))
  | .addIoCb (.channel _) => inferInstanceAs (Decidable (_ → _ → _))
  | .addIoCb .status | .malloc | .command _ | .newHelper _ | .releaseHelper | .openStatus
  | .writeLine _ => inferInstanceAs (Decidable True)

/-- Every call of an operation is clean when it is made. -/
def World.CleanEvent (w : World) : Event → Prop
  | .operation operation answers =>
      (operation.steps w.requestOrigin).Along World.call World.Clean (w.begin answers)
  | _ => True

instance (w : World) : (event : Event) → Decidable (w.CleanEvent event)
  | .operation _ _ => inferInstanceAs (Decidable (Calls.Along ..))
  | .engineFlags _ | .io _ | .statusDone | .cancel | .othersOpen | .othersClose _ =>
      inferInstanceAs (Decidable True)

end Gpgme.Channels
