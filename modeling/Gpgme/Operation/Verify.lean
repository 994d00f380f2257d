import Gpgme.OpSupport
import Gpgme.Lib.LinkedList

/-! The verification status handler of `verify.c`. -/

namespace Gpgme

open CString

-----------------------------------------------------------------------------------------
-- The summary of a signature
-----------------------------------------------------------------------------------------

/-- `calc_sig_summary`. -/
def calcSigSummary (sig : Signature) : Signature :=
  let code := gpgErrCode sig.status
  let checked := code = ErrCode.noError ∨ code = ErrCode.sigExpired ∨ code = ErrCode.keyExpired
  let trusted := sig.validity = .full ∨ sig.validity = .ultimate
  let sum : Sigsum := {
    green := trusted ∧ checked
    red := ¬ trusted
      ∧ ((sig.validity = .never ∧ checked)
        ∨ (sig.validity ≠ .never ∧ code = ErrCode.badSignature))
    sigExpired := code = ErrCode.sigExpired
    keyExpired := code = ErrCode.keyExpired
    keyMissing := code = ErrCode.noPubkey
    keyRevoked := code = ErrCode.certRevoked
      ∨ gpgErrCode sig.validityReason = ErrCode.certRevoked
    sysError := ¬ (checked ∨ code = ErrCode.noPubkey ∨ code = ErrCode.certRevoked
      ∨ code = ErrCode.badSignature)
    crlTooOld := gpgErrCode sig.validityReason = ErrCode.crlTooOld ∧ sig.validity = .unknown
    badPolicy := sig.wrongKeyUsage
  }
  -- The signature is unquestionably valid when green is the only flag.
  { sig with summary := { sum with valid := sum = { green := true } } }

-----------------------------------------------------------------------------------------
-- Entries of the signature list
-----------------------------------------------------------------------------------------

/-- `prepare_new_sig`; `none` is the failed assertion that only the first entry is reused. -/
def prepareNewSig (opd : VerifyData) : Option VerifyData :=
  match opd.onlyNewsigSeen, opd.currentSig with
  | true, some addr =>
      if opd.signatures = some addr then
        some { opd with
          heap := opd.heap.set addr {}
          didPrepareNewSig := true
          onlyNewsigSeen := false }
      else
        none
  | _, current =>
      let addr := opd.heap.length
      let heap :=
        match current with
        | none => opd.heap ++ [{}]
        | some last => opd.heap.modify last (fun sig => { sig with next := some addr }) ++ [{}]
      some { opd with
        heap
        signatures := some (opd.signatures.getD addr)
        currentSig := some addr
        didPrepareNewSig := true
        onlyNewsigSeen := false }

/-- What parsing a line for one signature gives: the error, the argument buffer and the
signature.
-/
abbrev SigResult := GpgError × Str × Signature

/-- `*tail && *tail != ' '`. -/
def notAtFieldEnd (tail : Str) : Bool := tail != [] && tail.head? != some blank

/-- The label `parse_err_sig_fail`. -/
def errsigFail (sig : Signature) : GpgError × Signature × Bool :=
  (0, { sig with status := gpgError ErrCode.general }, false)

/-- The fields of an ERRSIG line behind the time: the return code and the fingerprint. -/
def parseErrsigCode (sig : Signature) (pos : Str) : GpgError × Signature × Bool :=
  if pos = [] then errsigFail sig
  else
    let rc := strtoul 10 pos
    let sig := { sig with status := errOfInt rc.value }
    if rc.errno || rc.tail == pos || notAtFieldEnd rc.tail then errsigFail sig
    else
      match skipBlanks rc.tail with
      | [] => (0, sig, false)
      | fpr =>
          if fpr = [45] ∨ fpr.take 2 = [45, blank] then (0, sig, false)
          else (0, { sig with fpr := some fpr }, true)

/-- The fields of an ERRSIG line, starting with the public key algorithm: the error, the
signature and whether it got a fingerprint.
-/
def parseErrsig (sig : Signature) (fields : Option Str) (protocol : Protocol)
    : GpgError × Signature × Bool :=
  match fields with
  | none => errsigFail sig
  | some pos =>
      let algo := strtol 0 pos
      let sig := { sig with pubkeyAlgo := mapPkAlgo algo.value protocol }
      if algo.errno || algo.tail == pos || algo.tail.head? != some blank then errsigFail sig
      else
        match skipBlanks algo.tail with
        | [] => errsigFail sig
        | pos =>
            let hash := strtol 0 pos
            let sig := { sig with hashAlgo := CInt.toInt hash.value }
            if hash.errno || hash.tail == pos || hash.tail.head? != some blank then
              errsigFail sig
            else
              match strchrBlank (skipBlanks hash.tail) with
              | none => errsigFail sig
              | some behindClass =>
                  let pos := skipBlanks behindClass
                  let (time, assigned) := parseTimestamp pos
                  let sig := { sig with timestamp := CInt.toSize time }
                  -- Without a time the end pointer still stands behind the hash algorithm.
                  let tail := assigned.getD hash.tail
                  if sig.timestamp = maxUlong ∨ pos = tail ∨ notAtFieldEnd tail then
                    (invEngine, sig, false)
                  else
                    parseErrsigCode sig (skipBlanks tail)

/-- The `switch` of `parse_new_sig` and what follows it. -/
def parseSigStatus (sig : Signature) (code : StatusCode) (args : Str) (protocol : Protocol)
    : SigResult :=
  let cut := word args
  let named (sig : Signature) : Signature :=
    if cut = [] then sig else { sig with fpr := some cut }
  match code with
  | .goodsig => (0, cut, named { sig with status := gpgError ErrCode.noError })
  | .expsig => (0, cut, named { sig with status := gpgError ErrCode.sigExpired })
  | .expkeysig => (0, cut, named { sig with status := gpgError ErrCode.keyExpired })
  | .badsig => (0, cut, named { sig with status := gpgError ErrCode.badSignature })
  | .revkeysig => (0, cut, named { sig with status := gpgError ErrCode.certRevoked })
  | .errsig =>
      let (err, sig, gotFpr) := parseErrsig sig ((strchrBlank args).map List.tail) protocol
      if err ≠ 0 then (err, cut, sig)
      else (0, cut, if gotFpr then sig else named sig)
  | _ => (gpgError ErrCode.general, cut, sig)

/-- `parse_valid_sig`; `none` is a search in a NULL string or the use of an end pointer that
was never assigned.
-/
def parseValidSig (sig : Signature) (args : Str) (protocol : Protocol) : Option SigResult :=
  let cut := word args
  if cut = [] then some (gpgError ErrCode.general, cut, sig)
  else
    let sig := { sig with fpr := some cut }
    match (strchrBlank args).map List.tail with
    | none => none
    | some created =>
        match strchrBlank created with
        | none => some (0, cut, sig)
        | some pos =>
            let (time, assigned) := parseTimestamp pos
            let sig := { sig with timestamp := CInt.toSize time }
            match assigned with
            | none =>
                if sig.timestamp = maxUlong then some (invEngine, cut, sig) else none
            | some tail =>
                if sig.timestamp = maxUlong ∨ pos = tail ∨ notAtFieldEnd tail then
                  some (invEngine, cut, sig)
                else
                  let (time, assigned) := parseTimestamp tail
                  let sig := { sig with expTimestamp := CInt.toSize time }
                  let expires := assigned.getD tail
                  if sig.expTimestamp = maxUlong ∨ tail = expires ∨ notAtFieldEnd expires then
                    some (invEngine, cut, sig)
                  else
                    match strchrBlank (skipBlanks expires) with
                    | none => some (0, cut, sig)
                    | some version =>
                        match strchrBlank (skipBlanks version) with
                        | none => some (0, cut, sig)
                        | some pos =>
                            let algo := strtol 0 pos
                            let sig := { sig with pubkeyAlgo := mapPkAlgo algo.value protocol }
                            if algo.errno || algo.tail == pos || algo.tail.head? != some blank
                            then some (invEngine, cut, sig)
                            else
                              match skipBlanks algo.tail with
                              | [] => some (0, cut, sig)
                              | pos =>
                                  let hash := strtol 0 pos
                                  let sig := { sig with hashAlgo := CInt.toInt hash.value }
                                  if hash.errno || hash.tail == pos
                                      || hash.tail.head? != some blank then
                                    some (invEngine, cut, sig)
                                  else
                                    some (0, cut, sig)

-----------------------------------------------------------------------------------------
-- Notations, trust and errors
-----------------------------------------------------------------------------------------

/-- The buffer after `_gpgme_split_fields`: it ends behind the first field. -/
def cutFirstField (args : Str) : Str :=
  args.take (args.length - (skipWord (skipBlanks args)).length)

/-- `parse_notation`. -/
def parseNotation (sig : Signature) (code : StatusCode) (args : Str) : SigResult :=
  match code with
  | .notationName | .policyUrl =>
      let cut := word args
      if sig.notations.any (fun entry => entry.value.isNone) then (invEngine, cut, sig)
      else
        let text := decodePercentString cut
        let added : SigNotation :=
          if code = .notationName then
            { name := some text, flagHumanReadable := true, humanReadable := true }
          else
            { value := some text, valueLen := text.length }
        (0, cut, { sig with notations := sig.notations ++ [added] })
  | .notationFlags =>
      match sig.notations.getLast? with
      | none => (invEngine, args, sig)
      | some last =>
          if last.name.isNone then (invEngine, args, sig)
          else
            match splitFields args 2 with
            | [critical, humanReadable] =>
                let flagCritical := atoi critical != 0
                let flagHumanReadable := atoi humanReadable != 0
                let changed := { last with
                  flagCritical
                  flagHumanReadable
                  critical := last.critical || flagCritical
                  humanReadable := last.humanReadable || flagHumanReadable }
                (0, cutFirstField args,
                  { sig with notations := sig.notations.dropLast ++ [changed] })
            | _ => (invEngine, cutFirstField args, sig)
  | .notationData =>
      match sig.notations.getLast? with
      | none => (invEngine, args, sig)
      | some last =>
          if last.name.isNone then (invEngine, args, sig)
          else
            let text := decodePercentString args
            let changed := { last with
              value := some (last.value.getD [] ++ text)
              valueLen := last.valueLen + text.length }
            (0, args, { sig with notations := sig.notations.dropLast ++ [changed] })
  | _ => (invEngine, args, sig)

/-- The validity that a trust line stands for. -/
def trustValidity : StatusCode → Validity
  | .trustNever => .never
  | .trustMarginal => .marginal
  | .trustFully | .trustUltimate => .full
  | _ => .unknown

/-- `parse_trust`. The arguments are cut at their first blank before they are searched for
the chain model.
-/
def parseTrust (sig : Signature) (code : StatusCode) (args : Str) : SigResult :=
  let cut := word args
  let behind := skipBlanks (skipWord cut)
  (0, cut, { sig with
    validity := trustValidity code
    validityReason := if cut = [] then 0 else errOfInt (atoi cut)
    chainModel := behind.take 2 == str "ch" && (behind.drop 2 == [] || behind.getD 2 0 == blank) })

/-- `parse_tofu_user`. -/
def parseTofuUser (sig : Signature) (args : Str) (protocol : Protocol) : SigResult :=
  match strchrBlank args with
  | none => (invEngine, args, sig)
  | some pos =>
      let fpr := word args
      if fpr = [] then (invEngine, args, sig)
      else
        let key := sig.key.getD { fpr, protocol }
        if key.fpr ≠ fpr then (gpgError ErrCode.dupValue, fpr, sig)
        else if pos.tail.head? = some blank then (invEngine, fpr, sig)
        else
          let address := decodePercentString (word pos.tail)
          (0, fpr, { sig with
            key := some { key with uids := key.uids ++ [(address, some {})] } })

/-- The counters of a TOFU line are stored as `unsigned short`. -/
def clampCount (value : Nat) : Nat := min value 65535

def parseTofuPolicy (policy : Str) : TofuPolicy :=
  if policy = str "none" then .none
  else if policy = str "auto" then .auto
  else if policy = str "good" then .good
  else if policy = str "bad" then .bad
  else if policy = str "ask" then .ask
  else .unknown

/-- Store the number in a field of the TOFU information, which stays as it is when the
field is not a number.
-/
def storeField (ti : TofuInfo) (field : Str) (store : TofuInfo → Nat → TofuInfo)
    : Except TofuInfo TofuInfo :=
  match strtoulField field with
  | none => .error ti
  | some value => .ok (store ti value)

/-- The fields of a TOFU_STATS line; an error leaves what was stored before it. -/
def parseTofuFields (ti : TofuInfo) (fields : List Str) : Except TofuInfo TofuInfo :=
  match fields with
  | validity :: signCount :: encrCount :: rest => do
      let value := (strtoulField validity).getD 8
      let ti ← if value > 7 then .error ti else .ok { ti with validity := value }
      let ti ← storeField ti signCount (fun ti n => { ti with signcount := clampCount n })
      let ti ← storeField ti encrCount (fun ti n => { ti with encrcount := clampCount n })
      match rest with
      | [] => .ok ti
      | policy :: rest =>
          let ti := { ti with policy := parseTofuPolicy policy }
          match rest with
          | [] => .ok ti
          | [_] => .error ti
          | first :: last :: rest =>
              let ti ← storeField ti first (fun ti n => { ti with signfirst := n })
              let ti ← storeField ti last (fun ti n => { ti with signlast := n })
              match rest with
              | encrFirst :: encrLast :: _ =>
                  let ti ← storeField ti encrFirst (fun ti n => { ti with encrfirst := n })
                  storeField ti encrLast (fun ti n => { ti with encrlast := n })
              | _ => .ok ti
  | _ => .error ti

/-- The TOFU information of the last user id that a TOFU_USER line has added. -/
def Signature.lastTofu (sig : Signature) : Option TofuInfo :=
  sig.key.bind (fun key => key.uids.getLast?.bind Prod.snd)

/-- Replace the TOFU information of the last user id. -/
def Signature.setLastTofu (sig : Signature) (ti : TofuInfo) : Signature :=
  { sig with
    key := sig.key.map (fun key =>
      match key.uids.getLast? with
      | none => key
      | some (address, _) => { key with uids := key.uids.dropLast ++ [(address, some ti)] }) }

/-- `parse_tofu_stats`. -/
def parseTofuStats (sig : Signature) (args : Str) : SigResult :=
  match sig.lastTofu with
  | none => (invEngine, args, sig)
  | some ti =>
      if ti.signfirst ≠ 0 ∨ ti.signcount ≠ 0 ∨ ti.validity ≠ 0 ∨ ti.policy ≠ .none then
        (invEngine, args, sig)
      else
        match parseTofuFields ti (splitFields args 8) with
        | .error ti => (invEngine, cutFirstField args, sig.setLastTofu ti)
        | .ok ti => (0, cutFirstField args, sig.setLastTofu ti)

/-- `parse_tofu_stats_long`. -/
def parseTofuStatsLong (sig : Signature) (args : Str) (raw : Bool) : SigResult :=
  match sig.lastTofu with
  | none => (invEngine, args, sig)
  | some ti =>
      if ti.description.isSome then (invEngine, args, sig)
      else
        let text := decodePercentString args
        let text := if raw then text else text.map (fun c => if c = 126 then blank else c)
        (0, args, sig.setLastTofu { ti with description := some text })

/-- The location and the error number of an ERROR line. -/
def errorFields (args : Str) : Option (Str × GpgError) :=
  (strchrBlank args).map (fun located => (word args, errOfInt (atoi (word located.tail))))

/-- `parse_error`; without a signature the line is only checked. -/
def parseVerifyError (sig : Option Signature) (args : Str)
    : GpgError × Str × Option Signature :=
  match errorFields args with
  | none => (invEngine, args, sig)
  | some (location, err) =>
      if location = str "proc_pkt.plaintext" ∧ gpgErrCode err = ErrCode.badData then
        (gpgError ErrCode.badData, location, sig)
      else if location = str "verify.findkey" then
        (0, location, sig.map (fun sig => { sig with status := err }))
      else if location = str "verify.keyusage" ∧ gpgErrCode err = ErrCode.wrongKeyUsage then
        (0, location, sig.map (fun sig => { sig with wrongKeyUsage := true }))
      else
        (0, location, sig)

-----------------------------------------------------------------------------------------
-- The status handler
-----------------------------------------------------------------------------------------

/-- Run a parser on the signature at an address. -/
def VerifyData.parseAt (opd : VerifyData) (addr : Nat)
    (parse : Signature → Option SigResult)
    : Option (GpgError × Str × VerifyData) :=
  match opd.heap[addr]? with
  | none => none
  | some sig =>
      (parse sig).map (fun (err, args, sig) => (err, args, { opd with heap := opd.heap.set addr sig }))

/-- Run a parser on the current signature, which a line of this kind requires. -/
def VerifyData.parseCurrent (opd : VerifyData) (args : Str) (parse : Signature → Option SigResult)
    : Option (GpgError × Str × VerifyData) :=
  match opd.currentSig with
  | none => some (invEngine, args, opd)
  | some addr => opd.parseAt addr parse

/-- `calc_sig_summary` of the current signature. -/
def VerifyData.summarize (opd : VerifyData) : VerifyData :=
  match opd.currentSig with
  | none => opd
  | some addr => { opd with heap := opd.heap.modify addr calcSigSummary }

/-- The part of `parse_new_sig` behind the preparation; `none` is the failed assertion that
there is a current signature.
-/
def parsePreparedSig (opd : VerifyData) (code : StatusCode) (args : Str) (protocol : Protocol)
    : Option (GpgError × Str × VerifyData) :=
  match opd.currentSig with
  | none => none
  | some addr =>
      VerifyData.parseAt { opd with didPrepareNewSig := false } addr (fun sig =>
        some (parseSigStatus sig code args protocol))

/-- `parse_new_sig`. -/
def parseNewSig (opd : VerifyData) (code : StatusCode) (args : Str) (protocol : Protocol)
    : Option (GpgError × Str × VerifyData) :=
  match (if opd.didPrepareNewSig then some opd else prepareNewSig opd) with
  | none => none
  | some opd => parsePreparedSig opd code args protocol

/-- Cut the list in front of `target`; the walk visits an entry at most once. -/
def unlinkFrom (target : Nat) : Nat → List Signature → Option Nat → Option (List Signature)
  | _, heap, none => some heap
  | 0, _, some _ => none
  | entries + 1, heap, some addr =>
      match heap[addr]? with
      | none => none
      | some sig =>
          if sig.next = some target then some (heap.set addr { sig with next := none })
          else unlinkFrom target entries heap sig.next

/-- Remove a last signature about which nothing but its start is known. -/
def removeLastSig (opd : VerifyData) (addr : Nat) : Option VerifyData :=
  match opd.heap[addr]? with
  | none => none
  | some sig =>
      if sig.next.isSome then none
      else if opd.signatures = some addr then
        some { opd with signatures := none, currentSig := none }
      else
        (unlinkFrom addr opd.heap.length opd.heap opd.signatures).map (fun heap =>
          { opd with heap, currentSig := none })

/-- The end of the status lines: the error and the data. -/
def verifyEof (opd : VerifyData) : Option (GpgError × VerifyData) :=
  let opd := if opd.didPrepareNewSig then opd else opd.summarize
  let removed :=
    match opd.onlyNewsigSeen, opd.currentSig with
    | true, some addr => removeLastSig opd addr
    | _, _ => some opd
  removed.map (fun opd => (opd.failureCode, { opd with onlyNewsigSeen := false }))

/-- The `switch` of `_gpgme_verify_status_handler` on the operation data. -/
def verifyStatusSwitch (ctx : Ctx) (code : StatusCode) (args : Str)
    : Option (GpgError × Str × VerifyData) :=
  let opd := ctx.verify
  let seen := { opd with onlyNewsigSeen := false }
  match code with
  | .newsig =>
      (prepareNewSig opd.summarize).map (fun opd =>
        (0, args, { opd with onlyNewsigSeen := true, conflictUserSeen := false }))
  | .goodsig | .expsig | .expkeysig | .badsig | .errsig | .revkeysig =>
      let opd := if opd.didPrepareNewSig then opd else opd.summarize
      parseNewSig { opd with onlyNewsigSeen := false } code args ctx.protocol
  | .validsig => seen.parseCurrent args (fun sig => parseValidSig sig args ctx.protocol)
  | .nodata =>
      match opd.currentSig with
      | none => some (gpgError ErrCode.noData, args, seen)
      | some addr =>
          seen.parseAt addr (fun sig =>
            some (0, args, { sig with status := gpgError ErrCode.noData }))
  | .unexpected =>
      match opd.currentSig with
      | none => some (gpgError ErrCode.general, args, seen)
      | some addr =>
          seen.parseAt addr (fun sig =>
            some (0, args, { sig with status := gpgError ErrCode.noData }))
  | .notationName | .notationFlags | .notationData | .policyUrl =>
      seen.parseCurrent args (fun sig => some (parseNotation sig code args))
  | .trustUndefined | .trustNever | .trustMarginal | .trustFully | .trustUltimate =>
      seen.parseCurrent args (fun sig => some (parseTrust sig code args))
  | .pkaTrustBad | .pkaTrustGood =>
      seen.parseCurrent args (fun sig =>
        if sig.pkaTrust ≠ 0 ∨ sig.pkaAddress.isSome then some (invEngine, args, sig)
        else
          some (0, word args, { sig with
            pkaTrust := if code = .pkaTrustGood then 2 else 1
            pkaAddress := some (word args) }))
  | .tofuUser =>
      match opd.currentSig with
      | none => some (invEngine, args, seen)
      | some addr =>
          (seen.parseAt addr (fun sig => some (parseTofuUser sig args ctx.protocol))).map
            (fun (err, args, opd) =>
              if gpgErrCode err = ErrCode.dupValue then
                (0, args, { opd with conflictUserSeen := true })
              else
                (gpgError (gpgErrCode err), args, { opd with conflictUserSeen := false }))
  | .tofuStats =>
      if opd.conflictUserSeen then some (0, args, seen)
      else seen.parseCurrent args (fun sig => some (parseTofuStats sig args))
  | .tofuStatsLong =>
      if opd.conflictUserSeen then some (0, args, seen)
      else
        seen.parseCurrent args (fun sig =>
          some (parseTofuStatsLong sig args ctx.rawDescription))
  | .error =>
      match opd.currentSig with
      | none =>
          let (err, args, _) := parseVerifyError none args
          some (err, args, seen)
      | some addr =>
          seen.parseAt addr (fun sig =>
            let (err, args, changed) := parseVerifyError (some sig) args
            some (err, args, changed.getD sig))
  | .failure =>
      let (failureCode, args) := parseFailure args
      some (0, args, { opd with failureCode })
  | .eof => (verifyEof opd).map (fun (err, opd) => (err, args, opd))
  | .plaintext =>
      let opd := { opd with plaintextSeen := opd.plaintextSeen + 1 }
      if opd.plaintextSeen > 1 then some (gpgError ErrCode.badData, args, opd)
      else
        let (fileName, isMime, args) := parsePlaintext args opd.fileName
        some (0, args, { opd with fileName, isMime })
  | .verificationComplianceMode =>
      if complianceFlags args then
        match opd.currentSig with
        | none => none
        | some addr => opd.parseAt addr (fun sig => some (0, args, { sig with isDeVs := true }))
      else
        some (0, args, opd)
  | _ => some (0, args, opd)

/-- `_gpgme_verify_status_handler`. -/
def verifyStatusHandler : StatusHandler := fun ctx code args =>
  (verifyStatusSwitch ctx code args).map (fun (err, args, opd) =>
    (err, args, { ctx with verify := opd }))

/-- The static `verify_status_handler`, which is the one installed for a verification. -/
def verifyStatusHandlerInstalled : StatusHandler :=
  progressStatusHandler.andThen verifyStatusHandler

/-- The successor pointers of the entries in a heap. -/
def sigNext (heap : List Signature) (addr : Nat) : Option (Option Nat) :=
  (heap[addr]?).map Signature.next

/-- The list `result.signatures`. -/
def VerifyData.resultSignatures (opd : VerifyData) : List Signature :=
  (LinkedList.walk (sigNext opd.heap) opd.heap.length opd.signatures).filterMap
    (fun addr => opd.heap[addr]?)

end Gpgme
