import Mathlib.Data.List.TakeWhile
import Gpgme.Data.Packets

/-! `pgp_binary_detection` of `data-identify.c`: the type of OpenPGP data by their packets. -/

namespace Gpgme

-----------------------------------------------------------------------------------------
-- The function
-----------------------------------------------------------------------------------------

/-- `gpgme_data_type_t`. -/
inductive DataType where
  | invalid
  | unknown
  | pgpSigned
  | pgpEncrypted
  | pgpOther
  | pgpKey
  | pgpSignature
  | cmsSigned
  | cmsEncrypted
  | cmsOther
  | x509Cert
  | pkcs12
deriving DecidableEq

/-- What the loop does with a packet: it returns a type, or it goes on with `anypacket` and
`allsignatures`.
-/
inductive Verdict where
  | decided (type : DataType)
  | goesOn (anypacket allsignatures : Bool)
deriving DecidableEq

/-- The body of the loop for a packet of some type. -/
def packetVerdict (anypacket allsignatures : Bool) (pkttype : Nat) : Verdict :=
  -- Leading marker packets are skipped.
  if !anypacket && pkttype == 10 then .goesOn anypacket allsignatures
  else
    let allsignatures :=
      if pkttype = 2 then if !anypacket then true else allsignatures
      else false
    match pkttype with
    | 2 => .goesOn true allsignatures
    | 11 => if allsignatures then .decided .pgpSigned else .goesOn true allsignatures
    | 4 => .decided .pgpSigned
    | 5 | 6 => .decided .pgpKey
    | 7 | 14 => .decided .pgpOther
    | 1 | 3 => .decided .pgpEncrypted
    | 8 => .decided (if !anypacket then .pgpSigned else .pgpOther)
    | _ => .decided .pgpOther

/-- The end of the function behind its loop. -/
def endVerdict (allsignatures : Bool) : DataType :=
  if allsignatures then .pgpSignature else .unknown

/-- The loop of `pgp_binary_detection`. Each round consumes at least one byte. -/
def pgpLoop : Nat → List UInt8 → Nat → Bool → Bool → Option DataType
  | 0, _, _, _, _ => none
  | rounds + 1, image, imagelen, anypacket, allsignatures =>
      match nextOpenpgpPacket image imagelen with
      | none => none
      | some next =>
          if next.err ≠ 0 ∧ gpgErrCode next.err ≠ ErrCode.truncated then
            some (endVerdict allsignatures)
          else
            match packetVerdict anypacket allsignatures (next.pkttype.getD 0) with
            | .decided type => some type
            | .goesOn anypacket allsignatures =>
                match next.bufptr with
                | some image =>
                    if next.err = 0 then
                      pgpLoop rounds image next.buflen anypacket allsignatures
                    else
                      some (endVerdict allsignatures)
                | none => some (endVerdict allsignatures)

/-- `pgp_binary_detection`. -/
def pgpBinaryDetection (image : List UInt8) (imagelen : Nat) : Option DataType :=
  pgpLoop (imagelen + 1) image imagelen false false

/-- The detection does not depend on what is behind its buffer. -/
theorem pgpLoop_behind (rounds : Nat) (image more : List UInt8) (anypacket allsignatures : Bool)
    : pgpLoop rounds (image ++ more) image.length anypacket allsignatures
      = pgpLoop rounds image image.length anypacket allsignatures := by
  induction rounds generalizing image anypacket allsignatures with
  | zero => rfl
  | succ rounds ih =>
      obtain ⟨next, called, sound⟩ := nextOpenpgpPacket_sound image
      rw [pgpLoop, pgpLoop, nextOpenpgpPacket_behind, called, Option.map_some]
      dsimp only [NextPacket.behind]
      by_cases failed : next.err ≠ 0 ∧ gpgErrCode next.err ≠ ErrCode.truncated
      · rw [if_pos failed, if_pos failed]
      rw [if_neg failed, if_neg failed]
      cases packetVerdict anypacket allsignatures (next.pkttype.getD 0) with
      | decided type => rfl
      | goesOn anypacket allsignatures =>
          dsimp only
          cases position : next.bufptr with
          | none => rfl
          | some rest =>
              dsimp only [Option.map_some]
              by_cases good : next.err = 0
              · obtain ⟨ctb, ntotal, -, -, -, -, total, bufptr⟩ := sound.consumed good
                rw [position] at bufptr
                split_ifs at bufptr with ended
                obtain rfl := Option.some.inj bufptr
                have length : next.buflen = (image.drop ntotal).length := by
                  rw [List.length_drop]
                  omega
                rw [if_pos good, if_pos good, length]
                exact ih _ _ _
              · rw [if_neg good, if_neg good]

/-- What stands behind the image is not looked at. -/
theorem pgpBinaryDetection_behind (image more : List UInt8)
    : pgpBinaryDetection (image ++ more) image.length = pgpBinaryDetection image image.length :=
  pgpLoop_behind _ image more false false

-----------------------------------------------------------------------------------------
-- Packets that are cut
-----------------------------------------------------------------------------------------

/-- The first packet is there as a whole. -/
theorem take_images_whole {packet : Packet} {cut : Nat} (whole : packet.image.length ≤ cut)
    (packets : List Packet)
    : (packetImages (packet :: packets)).take cut
      = packet.image ++ (packetImages packets).take (cut - packet.image.length) := by
  rw [packetImages, List.flatMap_cons, List.take_append, List.take_of_length_le whole]
  rfl

/-- It is cut behind its header. -/
theorem take_images_cut {packet : Packet} {cut : Nat} (read : packet.header.length ≤ cut)
    (short : cut < packet.image.length) (packets : List Packet)
    : (packetImages (packet :: packets)).take cut
      = packet.header ++ packet.body.take (cut - packet.header.length) := by
  rw [packetImages, List.flatMap_cons, List.take_append_of_le_length (Nat.le_of_lt short),
    Packet.image, List.take_append, List.take_of_length_le read]

/-- What is behind a packet is shorter. -/
theorem length_rest_lt {packet : Packet} {packets : List Packet} {cut : Nat}
    (filled : (packetImages packets).take (cut - packet.image.length) ≠ [])
    : ((packetImages packets).take (cut - packet.image.length)).length
      < ((packetImages (packet :: packets)).take cut).length := by
  have whole : packet.image.length ≤ cut := by
    by_contra short
    rw [Nat.sub_eq_zero_of_le (by omega), List.take_zero] at filled
    exact filled rfl
  have positive := List.length_pos_iff.mpr (image_ne_nil packet)
  rw [take_images_whole whole, List.length_append]
  omega

/-- The loop for a packet whose header can be read. -/
theorem pgpLoop_packet {packet : Packet} (notPng : packet.NotPng) {cut : Nat}
    (read : packet.header.length ≤ cut) (rounds : Nat) (packets : List Packet)
    (anypacket allsignatures : Bool)
    : let image := (packetImages (packet :: packets)).take cut
      pgpLoop (rounds + 1) image image.length anypacket allsignatures
      = match packetVerdict anypacket allsignatures packet.type with
        | .decided type => some type
        | .goesOn anypacket allsignatures =>
            let rest := (packetImages packets).take (cut - packet.image.length)
            if rest = [] then some (endVerdict allsignatures)
            else pgpLoop rounds rest rest.length anypacket allsignatures := by
  dsimp only
  by_cases whole : packet.image.length ≤ cut
  · rw [take_images_whole whole, pgpLoop, Packet.next_whole notPng]
    dsimp only
    rw [if_neg (fun failed => failed.1 rfl), Option.getD_some]
    cases packetVerdict anypacket allsignatures packet.type with
    | decided type => rfl
    | goesOn anypacket allsignatures =>
        dsimp only
        by_cases ended : (packetImages packets).take (cut - packet.image.length) = []
        · rw [if_pos ended, if_pos ended]
        · rw [if_neg ended, if_neg ended]
          rfl
  · have short := Nat.not_le.mp whole
    have tail
        : (packet.body.take (cut - packet.header.length)).length < packet.body.length := by
      rw [List.length_take]
      have total := packet.length_image
      omega
    have nothing : (packetImages packets).take (cut - packet.image.length) = [] := by
      rw [Nat.sub_eq_zero_of_le (Nat.le_of_lt short), List.take_zero]
    have cut
        : packet.header ++ packet.body.take (cut - packet.header.length)
          <+: packet.image ++ [] := by
      rw [List.append_nil, Packet.image, List.prefix_append_right_inj]
      exact List.take_prefix _ _
    rw [take_images_cut read short, pgpLoop, Packet.next_truncated notPng cut tail, nothing]
    dsimp only
    rw [if_neg (fun failed => failed.2 (by decide)), Option.getD_some]
    cases packetVerdict anypacket allsignatures packet.type with
    | decided type => rfl
    | goesOn anypacket allsignatures => rfl

/-- The first of two length bytes of the new style. -/
theorem two_bytes {type n : Nat} (fits : LengthFormat.new2.Fits type n)
    : ¬UInt8.ofNat ((n - 192 + 192 * 256) / 256 ^ 1) < 192
      ∧ UInt8.ofNat ((n - 192 + 192 * 256) / 256 ^ 1) < 224 := by
  obtain ⟨least, most⟩ := fits
  have high
      : (UInt8.ofNat ((n - 192 + 192 * 256) / 256 ^ 1)).toNat = (n - 192) / 256 + 192 := by
    rw [UInt8.toNat_ofNat', Nat.pow_one]
    omega
  rw [UInt8.lt_iff_toNat_lt, UInt8.lt_iff_toNat_lt, high]
  refine ⟨Nat.not_lt.mpr (Nat.le_add_left _ _), ?_⟩
  change _ < 224
  omega

/-- A header that is cut is not read. -/
theorem packetHeader_cut {format : LengthFormat} {type n : Nat} (bound : type < 20)
    (fits : format.Fits type n) {count : Nat} (cut : count < (format.lengthBytes n).length)
    : packetHeader (format.ctb type) ((format.lengthBytes n).take count)
        ((format.lengthBytes n).take count).length
      = some (.error (gpgError ErrCode.invPacket)) := by
  have length : ((format.lengthBytes n).take count).length = count := by
    rw [List.length_take]
    omega
  rw [length]
  have old {shift : Nat} (small : type < 16) (few : shift < 3) (less : count < 2 ^ shift)
      (bytes : List UInt8)
      : packetHeader (UInt8.ofNat (128 + type * 4 + shift)) bytes count
        = some (.error (gpgError ErrCode.invPacket)) := by
    have tag : (UInt8.ofNat (128 + type * 4 + shift)).toNat = 128 + type * 4 + shift :=
      UInt8.toNat_ofNat_of_lt' (by change _ < 256; omega)
    have style : (128 + type * 4 + shift) / 64 % 2 ≠ 1 := by omega
    have lenbytes : (128 + type * 4 + shift) % 4 = shift := by omega
    unfold packetHeader oldHeader
    rw [tag, if_neg style, lenbytes, if_neg (by omega : ¬shift = 3)]
    exact if_pos less
  have new (bytes : List UInt8) (count : Nat)
      (cut : count = 0
        ∨ (∃ c rest, bytes = c :: rest ∧ ¬c < 192 ∧ c < 224 ∧ count = 1)
        ∨ ∃ rest, bytes = 255 :: rest ∧ count < 5 ∧ 0 < count)
      : packetHeader (UInt8.ofNat (192 + type)) bytes count
        = some (.error (gpgError ErrCode.invPacket)) := by
    unfold packetHeader newHeader
    rw [if_pos (Packet.ctb_new bound).2.1]
    dsimp only
    rcases cut with rfl | ⟨c, rest, rfl, large, small, rfl⟩ | ⟨rest, rfl, few, positive⟩
    · rfl
    · dsimp only
      rw [if_neg (by omega), if_neg large, if_pos small, if_pos rfl]
    · dsimp only
      rw [if_neg (by omega), if_neg (by decide), if_neg (by decide), if_pos rfl,
        if_pos (by omega)]
  cases format with
  | old1 => exact @old 0 fits.1 (by omega) cut _
  | old2 => exact @old 1 fits.1 (by omega) cut _
  | old4 => exact @old 2 fits.1 (by omega) cut _
  | new1 =>
      obtain rfl : count = 0 := by simpa [LengthFormat.lengthBytes, bigEndian] using cut
      exact new [] 0 (.inl rfl)
  | new2 =>
      have few : count < 2 := cut
      cases count with
      | zero => exact new _ 0 (.inl rfl)
      | succ more =>
          obtain rfl : more = 0 := by omega
          exact new _ 1 (.inr (.inl ⟨_, [], rfl, (two_bytes fits).1, (two_bytes fits).2, rfl⟩))
  | new5 =>
      have few : count < 5 := cut
      cases count with
      | zero => exact new _ 0 (.inl rfl)
      | succ more => exact new _ (more + 1) (.inr (.inr ⟨_, rfl, by omega, by omega⟩))

/-- The loop ends at a header that is cut. -/
theorem pgpLoop_headerCut {packet : Packet} {cut rounds : Nat} (some_ : 0 < cut)
    (short : cut < packet.header.length) (packets : List Packet) (anypacket allsignatures : Bool)
    : let image := (packetImages (packet :: packets)).take cut
      pgpLoop (rounds + 1) image image.length anypacket allsignatures
      = some (endVerdict allsignatures) := by
  obtain ⟨count, rfl⟩ : ∃ count, cut = count + 1 := ⟨cut - 1, by omega⟩
  have few : count < (packet.format.lengthBytes packet.body.length).length :=
    Nat.lt_of_succ_lt_succ short
  have bytes
      : (packetImages (packet :: packets)).take (count + 1)
        = packet.format.ctb packet.type
          :: (packet.format.lengthBytes packet.body.length).take count := by
    rw [packetImages, List.flatMap_cons, Packet.image, List.append_assoc,
      List.take_append_of_le_length (Nat.le_of_lt short)]
    rfl
  have bound := (allowedPacket_lt packet.allowed).2
  have read := packetHeader_cut bound packet.fits few
  have tag := (Packet.packetHeader_read bound packet.fits []).1
  have failed : gpgError ErrCode.invPacket ≠ 0 := by decide
  have other : gpgErrCode (gpgError ErrCode.invPacket) ≠ ErrCode.truncated := by decide
  dsimp only
  rw [bytes, pgpLoop, nextOpenpgpPacket, if_neg (by simp), if_neg (by omega)]
  split_ifs
  · exact if_pos ⟨failed, other⟩
  · rw [List.length_cons, Nat.add_sub_cancel, read]
    exact if_pos ⟨failed, other⟩

/-- Behind a signature more of them do not matter, wherever they are cut; by induction on them. -/
theorem pgpLoop_signatures {packets : List Packet} (notPng : ∀ p ∈ packets, p.NotPng)
    (signatures : ∀ p ∈ packets, p.type = 2) {cut rounds : Nat}
    (some_ : (packetImages packets).take cut ≠ [])
    (enough : ((packetImages packets).take cut).length < rounds)
    : pgpLoop rounds ((packetImages packets).take cut) ((packetImages packets).take cut).length
        true true
      = some .pgpSignature := by
  induction packets generalizing cut rounds with
  | nil => exact absurd (List.take_nil ..) some_
  | cons packet packets ih =>
      obtain ⟨rounds, rfl⟩ : ∃ fewer, rounds = fewer + 1 := ⟨rounds - 1, by omega⟩
      by_cases read : packet.header.length ≤ cut
      · have step := pgpLoop_packet (notPng packet List.mem_cons_self) read rounds packets true true
        dsimp only at step
        rw [step, signatures packet List.mem_cons_self]
        change (if (packetImages packets).take (cut - packet.image.length) = [] then _ else _) = _
        by_cases ended : (packetImages packets).take (cut - packet.image.length) = []
        · rw [if_pos ended]
          rfl
        · rw [if_neg ended]
          have shorter := length_rest_lt ended
          exact ih (fun p member => notPng p (List.mem_cons_of_mem _ member))
            (fun p member => signatures p (List.mem_cons_of_mem _ member)) ended (by omega)
      · have positive : 0 < cut := Nat.pos_of_ne_zero fun zero => some_ (by rw [zero, List.take_zero])
        exact pgpLoop_headerCut positive (Nat.not_le.mp read) packets true true

-----------------------------------------------------------------------------------------
-- The types that are promised
-----------------------------------------------------------------------------------------

/-- The type for some packets without leading markers, and the packet that decides on it. -/
def decision : List Nat → Option (DataType × Nat)
  | [] => none
  | type :: rest =>
      if type = 2 then
        match rest.dropWhile (· == 2) with
        | [] => some (.pgpSignature, 0)
        | next :: _ =>
            -- The old signature format.
            if next = 11 then some (.pgpSigned, 1 + (rest.takeWhile (· == 2)).length) else none
      else if type = 4 ∨ type = 8 then some (.pgpSigned, 0)
      else if type = 5 ∨ type = 6 then some (.pgpKey, 0)
      else if type = 1 ∨ type = 3 then some (.pgpEncrypted, 0)
      else none

/-- The packets behind the leading markers. -/
def behindMarkers (packets : List Packet) : List Packet := packets.dropWhile (·.type == 10)

/-- The number of the bytes up to the header of a packet. -/
def headerEnd (packets : List Packet) (index : Nat) (packet : Packet) : Nat :=
  (packetImages (packets.takeWhile (·.type == 10))).length
    + (packetImages ((behindMarkers packets).take index)).length + packet.header.length

/-- The promised type is detected, wherever the packets are cut behind the header of the packet that
decides on it.
-/
def Detected (packets : List Packet) : Prop :=
  ∀ type index packet,
    decision ((behindMarkers packets).map Packet.type) = some (type, index)
    → (behindMarkers packets)[index]? = some packet
    → ∀ cut,
      headerEnd packets index packet ≤ cut
      → pgpBinaryDetection ((packetImages packets).take cut)
          ((packetImages packets).take cut).length
        = some type

/-- The old signature format: signatures and a plaintext behind them. -/
def OldSigned (types : List Nat) : Prop :=
  ∃ count more, types = List.replicate (count + 1) 2 ++ 11 :: more

/-- Images of two lists of packets stand behind each other. -/
theorem packetImages_append (packets more : List Packet)
    : packetImages (packets ++ more) = packetImages packets ++ packetImages more :=
  List.flatMap_append

/-- The packets behind some whole ones, cut. -/
theorem take_images_append (packets more : List Packet) (cut : Nat)
    : (packetImages (packets ++ more)).take ((packetImages packets).length + cut)
      = packetImages packets ++ (packetImages more).take cut := by
  rw [packetImages_append, List.take_length_add_append]

/-- Leading markers are skipped, by induction on them. -/
theorem pgpLoop_markers {markers : List Packet} (notPng : ∀ p ∈ markers, p.NotPng)
    (skipped : ∀ p ∈ markers, p.type = 10) (packets : List Packet) {cut rounds : Nat}
    (some_ : (packetImages packets).take cut ≠ [])
    (enough
      : (packetImages markers ++ (packetImages packets).take cut).length < rounds)
    : ∃ fewer,
        ((packetImages packets).take cut).length < fewer
        ∧ pgpLoop rounds (packetImages markers ++ (packetImages packets).take cut)
            (packetImages markers ++ (packetImages packets).take cut).length false false
          = pgpLoop fewer ((packetImages packets).take cut)
              ((packetImages packets).take cut).length false false := by
  induction markers generalizing rounds with
  | nil => exact ⟨rounds, enough, rfl⟩
  | cons marker markers ih =>
      obtain ⟨rounds, rfl⟩ : ∃ fewer, rounds = fewer + 1 := ⟨rounds - 1, by omega⟩
      have positive := List.length_pos_iff.mpr (image_ne_nil marker)
      have images
          : packetImages (marker :: markers) ++ (packetImages packets).take cut
            = marker.image ++ (packetImages markers ++ (packetImages packets).take cut) := by
        rw [packetImages, List.flatMap_cons, List.append_assoc]
        rfl
      have filled : packetImages markers ++ (packetImages packets).take cut ≠ [] :=
        List.append_ne_nil_of_right_ne_nil _ some_
      rw [images, List.length_append] at enough
      obtain ⟨fewer, bound, same⟩ :=
        @ih (fun p member => notPng p (List.mem_cons_of_mem _ member))
          (fun p member => skipped p (List.mem_cons_of_mem _ member)) rounds (by omega)
      refine ⟨fewer, bound, ?_⟩
      rw [← same, images, pgpLoop, Packet.next_whole (notPng marker List.mem_cons_self)]
      dsimp only
      rw [if_neg (fun failed => failed.1 rfl), Option.getD_some,
        skipped marker List.mem_cons_self, if_neg filled]
      rfl

/-- The first packet decides if its verdict is a type. -/
theorem pgpLoop_decided {packet : Packet} (notPng : packet.NotPng) {type : DataType}
    (verdict : packetVerdict false false packet.type = .decided type) (packets : List Packet)
    {cut rounds : Nat} (read : packet.header.length ≤ cut) (some_ : 0 < rounds)
    : pgpLoop rounds ((packetImages (packet :: packets)).take cut)
        ((packetImages (packet :: packets)).take cut).length false false
      = some type := by
  obtain ⟨rounds, rfl⟩ : ∃ fewer, rounds = fewer + 1 := ⟨rounds - 1, by omega⟩
  have step := pgpLoop_packet notPng read rounds packets false false
  dsimp only at step
  rw [step, verdict]

/-- At the header of a plaintext behind signatures the loop does not know of the signatures any more;
by induction on them.
-/
theorem pgpLoop_plaintext {signatures : List Packet} (notPng : ∀ p ∈ signatures, p.NotPng)
    (types : ∀ p ∈ signatures, p.type = 2) {plaintext : Packet} (notPng' : plaintext.NotPng)
    (type : plaintext.type = 11) (more : List Packet) {rounds : Nat}
    (anypacket allsignatures : Bool)
    (enough
      : (packetImages signatures
          ++ (packetImages (plaintext :: more)).take plaintext.header.length).length
        < rounds)
    : pgpLoop rounds
        (packetImages signatures
          ++ (packetImages (plaintext :: more)).take plaintext.header.length)
        (packetImages signatures
          ++ (packetImages (plaintext :: more)).take plaintext.header.length).length
        anypacket allsignatures
      = some .unknown := by
  have filled : (packetImages (plaintext :: more)).take plaintext.header.length ≠ [] := by
    rw [packetImages, List.flatMap_cons, Packet.image, List.append_assoc, List.take_left]
    exact List.cons_ne_nil _ _
  induction signatures generalizing rounds anypacket allsignatures with
  | nil =>
      obtain ⟨rounds, rfl⟩ : ∃ fewer, rounds = fewer + 1 := ⟨rounds - 1, by omega⟩
      have step := pgpLoop_packet notPng' (le_refl plaintext.header.length) rounds more anypacket
        allsignatures
      have verdict : packetVerdict anypacket allsignatures 11 = .goesOn true false := by
        cases anypacket <;> cases allsignatures <;> rfl
      have ended : plaintext.header.length - plaintext.image.length = 0 := by
        rw [plaintext.length_image]
        omega
      dsimp only at step
      rw [type, verdict, ended, List.take_zero] at step
      exact step
  | cons signature signatures ih =>
      obtain ⟨rounds, rfl⟩ : ∃ fewer, rounds = fewer + 1 := ⟨rounds - 1, by omega⟩
      have positive := List.length_pos_iff.mpr (image_ne_nil signature)
      have images
          : packetImages (signature :: signatures)
              ++ (packetImages (plaintext :: more)).take plaintext.header.length
            = signature.image
              ++ (packetImages signatures
                ++ (packetImages (plaintext :: more)).take plaintext.header.length) := by
        rw [packetImages, List.flatMap_cons, List.append_assoc]
        rfl
      have verdict
          : packetVerdict anypacket allsignatures 2
            = .goesOn true (if !anypacket then true else allsignatures) := by
        cases anypacket <;> cases allsignatures <;> rfl
      have some_ := List.append_ne_nil_of_right_ne_nil (packetImages signatures) filled
      rw [images, List.length_append] at enough
      rw [images, pgpLoop, Packet.next_whole (notPng signature List.mem_cons_self)]
      dsimp only
      rw [if_neg (fun failed => failed.1 rfl), Option.getD_some,
        types signature List.mem_cons_self, verdict, if_neg some_]
      exact ih (fun p member => notPng p (List.mem_cons_of_mem _ member))
        (fun p member => types p (List.mem_cons_of_mem _ member)) _ _ (by omega)

/-- The first packet that decides by itself. -/
theorem decision_first {type : Nat} {rest : List Nat} {verdict : DataType} {index : Nat}
    (decided : decision (type :: rest) = some (verdict, index)) (other : type ≠ 2)
    : index = 0 ∧ packetVerdict false false type = .decided verdict := by
  rw [decision, if_neg other] at decided
  split_ifs at decided with signed key encrypted
  · obtain ⟨rfl, rfl⟩ := Prod.mk.inj (Option.some.inj decided)
    rcases signed with rfl | rfl <;> exact ⟨rfl, rfl⟩
  · obtain ⟨rfl, rfl⟩ := Prod.mk.inj (Option.some.inj decided)
    rcases key with rfl | rfl <;> exact ⟨rfl, rfl⟩
  · obtain ⟨rfl, rfl⟩ := Prod.mk.inj (Option.some.inj decided)
    rcases encrypted with rfl | rfl <;> exact ⟨rfl, rfl⟩

/-- A first signature decides unless a plaintext follows the signatures. -/
theorem decision_signature {rest : List Nat} {verdict : DataType} {index : Nat}
    (decided : decision (2 :: rest) = some (verdict, index))
    : (verdict = .pgpSignature ∧ index = 0 ∧ ∀ type ∈ rest, type = 2)
      ∨ OldSigned (2 :: rest) := by
  rw [decision, if_pos rfl] at decided
  cases behind : rest.dropWhile (· == 2) with
  | nil =>
      rw [behind] at decided
      obtain ⟨rfl, rfl⟩ := Prod.mk.inj (Option.some.inj decided)
      refine .inl ⟨rfl, rfl, fun type member => ?_⟩
      simpa using List.dropWhile_eq_nil_iff.mp behind type member
  | cons next more =>
      rw [behind] at decided
      by_cases plaintext : next = 11
      · subst plaintext
        have signatures
            : rest.takeWhile (· == 2) = List.replicate (rest.takeWhile (· == 2)).length 2 :=
          List.eq_replicate_of_mem fun type member => by
            simpa using List.mem_takeWhile_imp member
        refine .inr ⟨(rest.takeWhile (· == 2)).length, more, ?_⟩
        rw [List.replicate_succ, List.cons_append, ← signatures, ← behind,
          List.takeWhile_append_dropWhile]
      · dsimp only at decided
        rw [if_neg plaintext] at decided
        cases decided

/-- The old format would be detected at its plaintext. -/
theorem decision_oldSigned (count : Nat) (more : List Nat)
    : decision (List.replicate (count + 1) 2 ++ 11 :: more) = some (.pgpSigned, count + 1) := by
  have signatures : ∀ type ∈ List.replicate count 2, (type == 2) = true := by
    intro type member
    rw [List.eq_of_mem_replicate member]
    rfl
  have behind : (List.replicate count 2 ++ 11 :: more).dropWhile (· == 2) = 11 :: more := by
    rw [List.dropWhile_append_of_pos signatures]
    rfl
  have front
      : (List.replicate count 2 ++ 11 :: more).takeWhile (· == 2) = List.replicate count 2 := by
    rw [List.takeWhile_append_of_pos signatures]
    simp
  rw [List.replicate_succ, List.cons_append, decision, if_pos rfl, behind, front]
  simp [Nat.add_comm]

/-- The detection for packets that are cut behind the leading markers. -/
theorem detection_behindMarkers {packets : List Packet} (notPng : ∀ p ∈ packets, p.NotPng)
    {cut : Nat} (some_ : (packetImages (behindMarkers packets)).take cut ≠ [])
    : let image := (packetImages packets).take
        ((packetImages (packets.takeWhile (·.type == 10))).length + cut)
      ∃ rounds,
        ((packetImages (behindMarkers packets)).take cut).length < rounds
        ∧ pgpBinaryDetection image image.length
          = pgpLoop rounds ((packetImages (behindMarkers packets)).take cut)
              ((packetImages (behindMarkers packets)).take cut).length false false := by
  have split : packets.takeWhile (·.type == 10) ++ behindMarkers packets = packets :=
    List.takeWhile_append_dropWhile
  have image
      : (packetImages packets).take
          ((packetImages (packets.takeWhile (·.type == 10))).length + cut)
        = packetImages (packets.takeWhile (·.type == 10))
          ++ (packetImages (behindMarkers packets)).take cut := by
    rw [← take_images_append, split]
  dsimp only
  rw [image]
  refine pgpLoop_markers (fun p member => notPng p ?_) (fun p member => ?_)
    (behindMarkers packets) some_ (Nat.lt_succ_self _)
  · exact (List.takeWhile_prefix _).subset member
  · simpa using List.mem_takeWhile_imp member

/-- A sample that goes beyond the first header is not empty. -/
theorem packetHeader_taken (packet : Packet) (packets : List Packet) {cut : Nat}
    (read : packet.header.length ≤ cut)
    : (packetImages (packet :: packets)).take cut ≠ [] := by
  intro empty
  rw [List.take_eq_nil_iff] at empty
  have positive := packet.length_header_pos
  rcases empty with zero | none
  · omega
  · rw [packetImages, List.flatMap_cons] at none
    exact image_ne_nil packet (List.append_eq_nil_iff.mp none).1

/-- Only signatures behind the markers. -/
theorem pgpLoop_allSignatures {packet : Packet} {packets : List Packet}
    (notPng : ∀ p ∈ packet :: packets, p.NotPng) (signatures : ∀ p ∈ packet :: packets, p.type = 2)
    {cut rounds : Nat} (read : packet.header.length ≤ cut)
    (enough : ((packetImages (packet :: packets)).take cut).length < rounds)
    : pgpLoop rounds ((packetImages (packet :: packets)).take cut)
        ((packetImages (packet :: packets)).take cut).length false false
      = some .pgpSignature := by
  obtain ⟨rounds, rfl⟩ : ∃ fewer, rounds = fewer + 1 := ⟨rounds - 1, by omega⟩
  have step := pgpLoop_packet (notPng packet List.mem_cons_self) read rounds packets false false
  dsimp only at step
  rw [step, signatures packet List.mem_cons_self]
  change (if (packetImages packets).take (cut - packet.image.length) = [] then _ else _) = _
  by_cases ended : (packetImages packets).take (cut - packet.image.length) = []
  · rw [if_pos ended]
    rfl
  · rw [if_neg ended]
    have shorter := length_rest_lt ended
    exact pgpLoop_signatures (fun p member => notPng p (List.mem_cons_of_mem _ member))
      (fun p member => signatures p (List.mem_cons_of_mem _ member)) ended (by omega)

/-- Without the old format the promised type is detected. -/
theorem detected_of_not_oldSigned {packets : List Packet} (notPng : ∀ p ∈ packets, p.NotPng)
    (other : ¬OldSigned ((behindMarkers packets).map Packet.type))
    : Detected packets := by
  intro type index decider decided found cut read
  have notPng' : ∀ p ∈ behindMarkers packets, p.NotPng := fun p member =>
    notPng p ((List.dropWhile_suffix _).subset member)
  have detection := @detection_behindMarkers packets notPng
  unfold headerEnd at read
  cases rest : behindMarkers packets with
  | nil =>
      rw [rest] at found
      cases found
  | cons packet more =>
      rw [rest] at decided found notPng' other read detection
      rw [List.map_cons] at decided other
      have first {index : Nat} (zero : index = 0)
          (found : (packet :: more)[index]? = some decider)
          (read : (packetImages (packets.takeWhile (·.type == 10))).length
            + (packetImages ((packet :: more).take index)).length + decider.header.length ≤ cut)
          : ∃ behind,
              cut = (packetImages (packets.takeWhile (·.type == 10))).length + behind
              ∧ packet.header.length ≤ behind := by
        subst zero
        obtain rfl := Option.some.inj found
        refine ⟨cut - (packetImages (packets.takeWhile (·.type == 10))).length, ?_, ?_⟩ <;> omega
      by_cases signature : packet.type = 2
      · rw [signature] at decided other
        rcases decision_signature decided with ⟨rfl, zero, signatures⟩ | old
        · obtain ⟨behind, rfl, taken⟩ := first zero found read
          obtain ⟨rounds, enough, value⟩ := detection (packetHeader_taken packet more taken)
          rw [value]
          refine pgpLoop_allSignatures notPng' (fun p member => ?_) taken enough
          rcases List.mem_cons.mp member with rfl | member
          · exact signature
          · exact signatures p.type (List.mem_map_of_mem member)
        · exact absurd old other
      · obtain ⟨zero, verdict⟩ := decision_first decided signature
        obtain ⟨behind, rfl, taken⟩ := first zero found read
        obtain ⟨rounds, enough, value⟩ := detection (packetHeader_taken packet more taken)
        rw [value]
        exact pgpLoop_decided (notPng' packet List.mem_cons_self) verdict more taken (by omega)

/-- At the header of its plaintext the old format is not known. -/
theorem oldSigned_unknown {packets : List Packet} (notPng : ∀ p ∈ packets, p.NotPng)
    {count : Nat} {more : List Nat}
    (types : (behindMarkers packets).map Packet.type = List.replicate (count + 1) 2 ++ 11 :: more)
    : ∃ plaintext,
        (behindMarkers packets)[count + 1]? = some plaintext
        ∧ pgpBinaryDetection ((packetImages packets).take (headerEnd packets (count + 1) plaintext))
            ((packetImages packets).take (headerEnd packets (count + 1) plaintext)).length
          = some .unknown := by
  have notPng' : ∀ p ∈ behindMarkers packets, p.NotPng := fun p member =>
    notPng p ((List.dropWhile_suffix _).subset member)
  have detection := @detection_behindMarkers packets notPng
  unfold headerEnd
  obtain ⟨signatures, tail, rest, twos, eleven⟩ := List.map_eq_append_iff.mp types
  obtain ⟨plaintext, more', rfl, type, -⟩ := List.map_eq_cons_iff.mp eleven
  have length : signatures.length = count + 1 := by
    rw [← List.length_map (f := Packet.type), twos, List.length_replicate]
  rw [rest] at notPng' detection ⊢
  refine ⟨plaintext, ?_, ?_⟩
  · rw [← length, List.getElem?_append_right (Nat.le_refl _), Nat.sub_self]
    rfl
  · have front : (signatures ++ plaintext :: more').take (count + 1) = signatures := by
      rw [← length, List.take_left]
    have taken := take_images_append signatures (plaintext :: more') plaintext.header.length
    rw [front, Nat.add_assoc]
    have filled
        : (packetImages (signatures ++ plaintext :: more')).take
            ((packetImages signatures).length + plaintext.header.length) ≠ [] := by
      rw [taken]
      exact List.append_ne_nil_of_right_ne_nil _
        (packetHeader_taken plaintext more' (Nat.le_refl _))
    obtain ⟨rounds, enough, value⟩ := detection filled
    rw [value]
    rw [taken] at enough ⊢
    refine pgpLoop_plaintext (fun p member => notPng' p (List.mem_append_left _ member))
      (fun p member => ?_)
      (notPng' plaintext (List.mem_append_right _ List.mem_cons_self)) type more' _ _ enough
    have two := List.mem_map_of_mem (f := Packet.type) member
    rw [twos] at two
    exact List.eq_of_mem_replicate two

/-- The types are detected except for the old signature format: `allsignatures` is cleared for a
plaintext before it is tested.
-/
theorem pgp_types_detected_iff {packets : List Packet} (notPng : ∀ p ∈ packets, p.NotPng)
    : Detected packets ↔ ¬OldSigned ((behindMarkers packets).map Packet.type) := by
  refine ⟨?_, detected_of_not_oldSigned notPng⟩
  rintro detected ⟨count, more, types⟩
  obtain ⟨plaintext, found, unknown⟩ := oldSigned_unknown notPng types
  have decided := decision_oldSigned count more
  rw [← types] at decided
  have signed := detected .pgpSigned (count + 1) plaintext decided found _ (Nat.le_refl _)
  exact absurd (signed.symm.trans unknown) (by decide)

/-- A signature behind a marker packet is found. -/
theorem marked_signature_detected
    : pgpBinaryDetection [168, 3, 80, 71, 80, 194, 0] 7 = some .pgpSignature := by
  have notPng : ∀ p ∈ [markerPacket, emptySignature], p.NotPng := by
    intro packet member
    rcases List.mem_cons.mp member with rfl | member
    · unfold Packet.NotPng
      decide
    · rw [List.mem_singleton.mp member]
      unfold Packet.NotPng
      decide
  have other : ¬OldSigned ((behindMarkers [markerPacket, emptySignature]).map Packet.type) := by
    rintro ⟨count, more, types⟩
    have length := congrArg List.length types
    rw [List.length_append, List.length_replicate, List.length_cons] at length
    change 1 = _ at length
    omega
  exact (pgp_types_detected_iff notPng).mpr other .pgpSignature 0 emptySignature rfl rfl 7
    (by decide)

def emptyPlaintext : Packet where
  type := 11
  format := .new1
  body := []
  allowed := rfl
  fits := (by decide : 0 < 192)

/-- A signature and a plaintext with empty bodies. -/
theorem old_format_unknown
    : pgpBinaryDetection (packetImages [emptySignature, emptyPlaintext]) 4 = some .unknown
      ∧ ¬Detected [emptySignature, emptyPlaintext] := by
  refine ⟨by decide, fun detected => ?_⟩
  have signed := detected .pgpSigned 1 emptyPlaintext rfl rfl 4 (by decide)
  exact absurd signed (by decide)

end Gpgme
