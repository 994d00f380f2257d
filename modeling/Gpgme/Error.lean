import Gpgme.Lib.CInt

/-! Error values as `libgpg-error` defines them: a code in the low 16 bits and a source in
the bits 24 to 30. The value 0 is the only one that means success.
-/

namespace Gpgme

/-- `gpgme_error_t`, an `unsigned int`. -/
abbrev GpgError := UInt32

def gpgErrCode (err : GpgError) : Nat := err.toNat % 65536

def gpgErrSource (err : GpgError) : Nat := err.toNat / 16777216 % 128

def gpgErrMake (source code : Nat) : GpgError :=
  if code = 0 then 0 else UInt32.ofNat (source % 128 * 16777216 + code % 65536)

/-- `gpg_error`: the error source of GPGME itself is 7. -/
def gpgError (code : Nat) : GpgError := gpgErrMake 7 code

/-- A number from a status line that is stored as an error value. -/
def errOfInt (value : Int) : GpgError := UInt32.ofNat (CInt.toUnsigned value)

namespace ErrCode

def noError : Nat := 0
def general : Nat := 1
def badSignature : Nat := 8
def noPubkey : Nat := 9
def badPassphrase : Nat := 11
def invPacket : Nat := 14
def noSeckey : Nat := 17
def notFound : Nat := 27
def invUserId : Nat := 37
def unexpected : Nat := 38
def invArg : Nat := 45
def unusablePubkey : Nat := 53
def unusableSeckey : Nat := 54
def invValue : Nat := 55
def missingCert : Nat := 57
def noData : Nat := 58
def notSupported : Nat := 60
def internal : Nat := 63
def tooLarge : Nat := 67
def notImplemented : Nat := 69
def invFlag : Nat := 72
def truncated : Nat := 74
def unsupportedAlgorithm : Nat := 84
def badData : Nat := 89
def certRevoked : Nat := 94
def noCrlKnown : Nat := 95
def crlTooOld : Nat := 96
def lineTooLong : Nat := 97
def canceled : Nat := 99
def certExpired : Nat := 101
def ambiguousName : Nat := 107
def noPolicyMatch : Nat := 116
def unsupportedProtocol : Nat := 121
def wrongKeyUsage : Nat := 125
def invEngine : Nat := 150
def pubkeyNotTrusted : Nat := 151
def decryptFailed : Nat := 152
def keyExpired : Nat := 153
def sigExpired : Nat := 154
def dupValue : Nat := 157
def unknownName : Nat := 165
def unknownOption : Nat := 174
def missingKey : Nat := 181
def missingIssuerCert : Nat := 185
def fullyCanceled : Nat := 198
def subkeysExpOrRev : Nat := 217
def noKey : Nat := 221
def keyDisabled : Nat := 252
def false : Nat := 256
/-- `GPG_ERR_USER_1`, which libraries do not use. -/
def user1 : Nat := 1024
def eof : Nat := 16383
/-- `GPG_ERR_EINVAL`: a system error with the index of `EINVAL`. -/
def einval : Nat := 32813
/-- `GPG_ERR_ENOMEM`: a system error with the index of `ENOMEM`. -/
def enomem : Nat := 32854

end ErrCode

/-- An error made from a code that fits 16 bits carries that code. -/
theorem gpgErrCode_gpgErrMake (source : Nat) {code : Nat} (small : code < 65536)
    : gpgErrCode (gpgErrMake source code) = code := by
  unfold gpgErrMake gpgErrCode
  split
  · next zero => simp [zero]
  · simp only [UInt32.toNat_ofNat']
    omega

/-- Making an error from a code other than 0 never yields success. -/
theorem gpgErrMake_ne_zero (source : Nat) {code : Nat} (small : code < 65536)
    (error : code ≠ 0)
    : gpgErrMake source code ≠ 0 := by
  intro zero
  have carried := gpgErrCode_gpgErrMake source small
  rw [zero] at carried
  exact error (by simpa [gpgErrCode] using carried.symm)

/-- `gpg_error_from_syserror` for the index of an `errno` value. -/
def gpgErrorFromSyserror (index : Nat) : GpgError := gpgError (32768 + index % 32768)

/-- The error for a failed system call is not 0. -/
theorem gpgErrorFromSyserror_ne_zero (index : Nat) : gpgErrorFromSyserror index ≠ 0 := by
  apply gpgErrMake_ne_zero
  · omega
  · omega

end Gpgme
