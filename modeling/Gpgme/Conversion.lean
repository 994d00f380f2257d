import Gpgme.Context

/-! The string conversions of `conversion.c` and `util.h` that the status handlers use. -/

namespace Gpgme

open CString

-----------------------------------------------------------------------------------------
-- Fields and numbers
-----------------------------------------------------------------------------------------

/-- The loop of `_gpgme_split_fields`, entered at the start of a field. -/
def splitFieldsFrom : Nat → Str → List Str
  | 0, _ => []
  | arraysize + 1, p =>
      match strchrBlank p with
      | none => [word p]
      | some pend =>
          match skipBlanks pend with
          | [] => [word p]
          | next => word p :: splitFieldsFrom arraysize next

/-- `_gpgme_split_fields`: at most `arraysize` fields; a blank string has one empty field. -/
def splitFields (string : Str) (arraysize : Nat) : List Str :=
  splitFieldsFrom arraysize (skipBlanks string)

/-- `_gpgme_strtoul_field`, where every failure is mapped by the callers to one error. -/
def strtoulField (string : Str) : Option Nat :=
  let result := strtoul 0 string
  if result.errno || result.tail == string || result.tail != [] then none
  else some result.value

/-- `PARSE_COMPLIANCE_FLAGS`: whether the flag 23 is found before the first 0. Each round
consumes a digit, so that the string's length bounds the number of rounds.
-/
def complianceFlagsFrom : Nat → Str → Bool
  | 0, _ => false
  | rounds + 1, p =>
      let flag := strtoul 10 p
      if flag.value = 0 ∨ flag.tail = p then false
      else flag.value == 23 || complianceFlagsFrom rounds flag.tail

def complianceFlags (flags : Str) : Bool := complianceFlagsFrom flags.length flags

-----------------------------------------------------------------------------------------
-- Percent escapes
-----------------------------------------------------------------------------------------

/-- `_gpgme_hextobyte` of two characters. -/
def hextobyte (high low : UInt8) : Option Nat :=
  if digitValue high < 16 ∧ digitValue low < 16 then
    some (digitValue high * 16 + digitValue low)
  else
    none

/-- `_gpgme_decode_percent_string` without the binary flag. An escaped binary zero becomes a
backslash and a digit, and an invalid escape is copied.
-/
def decodePercentString : Str → Str
  | [] => []
  | c :: rest =>
      if c ≠ 37 then c :: decodePercentString rest
      else
        match rest with
        | [] => [37]
        | [high] => [37, high]
        | high :: low :: rest =>
            match hextobyte high low with
            | none => 37 :: high :: low :: decodePercentString rest
            | some 0 => 92 :: 48 :: decodePercentString rest
            | some value => UInt8.ofNat value :: decodePercentString rest

/-- `_gpgme_decode_percent_string` with the binary flag, where an escaped binary zero stands for
itself.
-/
def decodePercentBinary : Str → List UInt8
  | [] => []
  | c :: rest =>
      if c ≠ 37 then c :: decodePercentBinary rest
      else
        match rest with
        | [] => [37]
        | [high] => [37, high]
        | high :: low :: rest =>
            match hextobyte high low with
            | none => 37 :: high :: low :: decodePercentBinary rest
            | some value => UInt8.ofNat value :: decodePercentBinary rest

-----------------------------------------------------------------------------------------
-- Escapes of C strings
-----------------------------------------------------------------------------------------

/-- The escapes of one letter. -/
def decodeOne : UInt8 → Option UInt8
  | 39 => some 39
  | 34 => some 34
  | 63 => some 63
  | 92 => some 92
  | 97 => some 7
  | 98 => some 8
  | 102 => some 12
  | 110 => some 10
  | 114 => some 13
  | 116 => some 9
  | 118 => some 11
  | _ => none

/-- `_gpgme_decode_c_string`, as far as the C string that it leaves. A backslash at the end is
copied together with the terminator.
-/
def decodeCString : Str → Str
  | [] => []
  | c :: rest =>
      if c ≠ 92 then c :: decodeCString rest
      else
        match rest with
        | [] => [92]
        | e :: rest =>
            match decodeOne e with
            | some result => result :: decodeCString rest
            | none =>
                if e ≠ 120 then 92 :: e :: decodeCString rest
                else
                  match rest with
                  | [] => [92, 120]
                  | [high] => [92, 120, high]
                  | high :: low :: rest =>
                      match hextobyte high low with
                      | none => 92 :: 120 :: high :: low :: decodeCString rest
                      | some 0 => 92 :: 48 :: decodeCString rest
                      | some value => UInt8.ofNat value :: decodeCString rest

-----------------------------------------------------------------------------------------
-- Timestamps
-----------------------------------------------------------------------------------------

/-- `atoi_1` on a signed `char`. -/
def atoi1 (c : UInt8) : Int := (if c < 128 then (c.toNat : Int) else (c.toNat : Int) - 256) - 48

def atoi2 (s : Str) (pos : Nat) : Int := atoi1 (s.getD pos 0) * 10 + atoi1 (s.getD (pos + 1) 0)

def atoi4 (s : Str) (pos : Nat) : Int := atoi2 s pos * 100 + atoi2 s (pos + 2)

/-- The days from the epoch to the start of a year of the Gregorian calendar. -/
def daysBeforeYear (year : Int) : Int :=
  365 * (year - 1970) + ((year - 1) / 4 - (year - 1) / 100 + (year - 1) / 400) - 477

def isLeapYear (year : Int) : Bool := year % 4 == 0 && (year % 100 != 0 || year % 400 == 0)

/-- The days of a year before a month that counts from 0. -/
def daysBeforeMonth (year : Int) (mon : Nat) : Int :=
  ([0, 31, 59, 90, 120, 151, 181, 212, 243, 273, 304, 334].getD mon 0 : Int)
    + if isLeapYear year && 1 < mon then 1 else 0

/-- `timegm`: fields outside their ranges carry over into the larger ones. -/
def timegm (year mon mday hour min sec : Int) : Int :=
  let year := year + mon / 12
  let mon := (mon % 12).toNat
  let days := daysBeforeYear year + daysBeforeMonth year mon + (mday - 1)
  ((days * 24 + hour) * 60 + min) * 60 + sec

/-- `_gpgme_parse_timestamp`: the time, and the end pointer where it is assigned. -/
def parseTimestamp (timestamp : Str) : Int × Option Str :=
  match skipBlanks timestamp with
  | [] => (0, none)
  | start =>
      if 15 ≤ start.length ∧ start.getD 8 0 = 84 then
        if atoi4 start 0 < 1900 then (-1, none)
        else
          (timegm (atoi4 start 0) (atoi2 start 4 - 1) (atoi2 start 6) (atoi2 start 9)
            (atoi2 start 11) (atoi2 start 13), some (start.drop 15))
      else
        let result := strtoul 10 start
        (CInt.toOff result.value, some result.tail)

/-- `_gpgme_parse_timestamp_ul`. Where the end pointer is not assigned the time is 0 or -1, and
the result is 0 whatever the pointer holds.
-/
def parseTimestampUl (timestamp : Str) : Nat :=
  if timestamp = [] then 0
  else
    match parseTimestamp timestamp with
    | (_, none) => 0
    | (time, some tail) =>
        if time = -1 ∨ tail = timestamp ∨ (tail ≠ [] ∧ tail.head? ≠ some blank) then 0
        else CInt.toSize time

-----------------------------------------------------------------------------------------
-- Algorithms
-----------------------------------------------------------------------------------------

/-- `_gpgme_map_pk_algo`; the argument is converted to `int`. -/
def mapPkAlgo (algo : Int) (protocol : Protocol) : Int :=
  let algo := CInt.toInt algo
  if protocol = .openpgp then
    if algo = 1 ∨ algo = 2 ∨ algo = 3 ∨ algo = 16 ∨ algo = 17 ∨ algo = 20 then algo
    else if algo = 18 then 302
    else if algo = 19 then 301
    else if algo = 22 then 303
    else 0
  else
    algo

def cipherAlgoName (algo : Int) (protocol : Protocol) : Str :=
  if protocol = .openpgp then
    match algo with
    | 1 => str "IDEA"
    | 2 => str "3DES"
    | 3 => str "CAST5"
    | 4 => str "BLOWFISH"
    | 7 => str "AES"
    | 8 => str "AES192"
    | 9 => str "AES256"
    | 10 => str "TWOFISH"
    | 11 => str "CAMELLIA128"
    | 12 => str "CAMELLIA192"
    | 13 => str "CAMELLIA256"
    | _ => str "Unknown"
  else
    str "Unknown"

def cipherModeName (algo : Int) (protocol : Protocol) : Str :=
  if protocol = .openpgp then
    match algo with
    | 0 => str "CFB"
    | 1 => str "EAX"
    | 2 => str "OCB"
    | _ => str "Unknown"
  else
    str "Unknown"

end Gpgme
