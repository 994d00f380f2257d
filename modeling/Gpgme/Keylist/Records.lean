import Mathlib.Data.List.ModifyLast
import Gpgme.Keylist.Handler

/-! The records of a key listing and what belongs to what. A record is looked at together with
its history, the lines in front of it with the nearest one first.
-/

namespace Gpgme

open CString

/-- The name of a record is its first field. -/
def recordName (line : Str) : Str := (lineFields line).headD []

/-- A record that starts a keyblock does so whatever comes before it. -/
def startsKeyblock (line : Str) : Bool := (rectypeOf (recordName line) true).startsKey

/-- The type of a record; most types need a keyblock that has started. -/
def recordAt (history : List Str) (line : Str) : Rectype :=
  rectypeOf (recordName line) (history.any startsKeyblock)

/-- The listing has this record with this history. -/
def HasRecord (lines : List Str) (history : List Str) (line : Str) : Prop :=
  line :: history <:+ lines.reverse

-----------------------------------------------------------------------------------------
-- What a record follows
-----------------------------------------------------------------------------------------

/-- The records that may stand between a user ID and its signatures, and the number of fields
that a subpacket needs.
-/
structure AttachRule where
  between : Rectype → Bool
  subpacketFields : Nat

/-- Signatures, revocations, trust information and subpackets. -/
def claimedRule : AttachRule where
  between := fun rectype =>
    rectype = .sig ∨ rectype = .rev ∨ rectype = .tfs ∨ rectype = .spk
  subpacketFields := 5

/-- The user ID pointer survives signatures, revocations and trust information. -/
def pointerRule : AttachRule where
  between := fun rectype => rectype = .sig ∨ rectype = .rev ∨ rectype = .tfs
  subpacketFields := 4

/-- The record is a user ID with enough fields. -/
def isUidRecord (history : List Str) (line : Str) : Bool :=
  recordAt history line = .uid ∧ 10 ≤ (lineFields line).length

def isSigRecord (history : List Str) (line : Str) : Bool :=
  recordAt history line = .sig ∨ recordAt history line = .rev

/-- A user ID stands in front, with only records in between that may be there. -/
def followsUid (rule : AttachRule) : List Str → Bool
  | [] => false
  | line :: history =>
      isUidRecord history line
      || (rule.between (recordAt history line) && followsUid rule history)

/-- A signature of a user ID stands in front, with only subpackets in between. -/
def followsSig (rule : AttachRule) : List Str → Bool
  | [] => false
  | line :: history =>
      if recordAt history line = .spk then followsSig rule history
      else isSigRecord history line && followsUid rule history

/-- The protocol of the keyblock that the next record belongs to. -/
def keyblockProtocol : List Str → Protocol
  | [] => .openpgp
  | line :: history =>
      if startsKeyblock line then
        if (recordAt history line).isX509 then .cms else .openpgp
      else
        keyblockProtocol history

-----------------------------------------------------------------------------------------
-- Attachments
-----------------------------------------------------------------------------------------

/-- What a record adds to the listing. -/
inductive Place where
  | key
  | uid (text : Str)
  | sig (keysig : KeySig)
  | subpacket (parsed : SigNotation)
  | nothing

/-- The text of a user ID with its signatures. -/
abbrev UidEntry := Str × List KeySig

/-- The keys of a listing with their user IDs. -/
abbrev Attachments := List (List UidEntry)

def UidEntry.addSig (entry : UidEntry) (keysig : KeySig) : UidEntry :=
  (entry.1, entry.2 ++ [keysig])

def UidEntry.onLastSig (entry : UidEntry) (set : KeySig → KeySig) : UidEntry :=
  (entry.1, entry.2.modifyLast set)

/-- Everything is added at the end of what is there. -/
def Attachments.add (attachments : Attachments) : Place → Attachments
  | .key => attachments ++ [[]]
  | .uid text => attachments.modifyLast (· ++ [(text, [])])
  | .sig keysig => attachments.modifyLast (·.modifyLast (UidEntry.addSig · keysig))
  | .subpacket parsed =>
      attachments.modifyLast
        (·.modifyLast (UidEntry.onLastSig · (KeySig.addNotation parsed)))
  | .nothing => attachments

/-- What a record adds, under a rule for the records it may follow. -/
def placeOf (ctx : KeylistCtx) (memory : Uninitialized) (rule : AttachRule)
    (history : List Str) (line : Str)
    : Place :=
  let fields := Fields.ofLine memory line
  match recordAt history line with
  | .pub | .sec | .crt | .crs => .key
  | .uid =>
      if isUidRecord history line then .uid (decodeCString (fields.texts.getD 9 []))
      else .nothing
  | .sig | .rev =>
      match newSig ctx fields (keyblockProtocol history) with
      | some keysig => if followsUid rule history then .sig keysig else .nothing
      | none => .nothing
  | .spk =>
      match readNotation fields with
      | some (.ok (some parsed)) =>
          if rule.subpacketFields ≤ fields.count ∧ followsSig rule history then
            .subpacket parsed
          else .nothing
      | _ => .nothing
  | _ => .nothing

/-- What a rule attaches in the records of a history. -/
def attached (ctx : KeylistCtx) (memory : Uninitialized) (rule : AttachRule)
    : List Str → Attachments
  | [] => []
  | line :: history =>
      (attached ctx memory rule history).add (placeOf ctx memory rule history line)

/-- A signature without its address. -/
def KeySig.content (keysig : KeySig) : KeySig := { keysig with addr := 0 }

def UserId.entry (uid : UserId) : UidEntry := (uid.uid, uid.signatures.map KeySig.content)

/-- What is attached to a key. -/
def Key.entries (key : Key) : List UidEntry := key.uids.map UserId.entry

/-- The keys of a listing, of which the last one may not be complete. -/
def KeylistData.keys (opd : KeylistData) : List Key := opd.keyQueue ++ opd.tmpKey.toList

end Gpgme
