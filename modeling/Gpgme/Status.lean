import Gpgme.Lib.CString

/-! The status keywords of the crypto engines and their codes, after `gpgme.h` and
`status-table.c`.
-/

namespace Gpgme

open CString

/-- `gpgme_status_code_t`. -/
inductive StatusCode where
  | eof | enter | leave | abort | goodsig | badsig | errsig | badarmor | rsaOrIdea
  | keyexpired | keyrevoked | trustUndefined | trustNever | trustMarginal | trustFully
  | trustUltimate | shmInfo | shmGet | shmGetBool | shmGetHidden | needPassphrase
  | validsig | sigId | encTo | nodata | badPassphrase | noPubkey | noSeckey
  | needPassphraseSym | decryptionFailed | decryptionOkay | missingPassphrase
  | goodPassphrase | goodmdc | badmdc | errmdc | imported | importOk | importProblem
  | importRes | fileStart | fileDone | fileError | beginDecryption | endDecryption
  | beginEncryption | endEncryption | deleteProblem | getBool | getLine | getHidden
  | gotIt | progress | sigCreated | sessionKey | notationName | notationData
  | policyUrl | beginStream | endStream | keyCreated | useridHint | unexpected
  | invRecp | noRecp | alreadySigned | sigexpired | expsig | expkeysig | truncated
  | error | newsig | revkeysig | sigSubpacket | needPassphrasePin | scOpFailure
  | scOpSuccess | cardctrl | backupKeyCreated | pkaTrustBad | pkaTrustGood | plaintext
  | invSgnr | noSgnr | success | decryptionInfo | plaintextLength | mountpoint
  | pinentryLaunched | attribute | beginSigning | keyNotCreated | inquireMaxlen
  | failure | keyConsidered | tofuUser | tofuStats | tofuStatsLong | notationFlags
  | decryptionComplianceMode | verificationComplianceMode
deriving DecidableEq, Repr

/-- `status_table`; the engine never sends the end of file as a keyword. -/
def statusTable : List (String × StatusCode) :=
  [ ("ABORT", .abort), ("ALREADY_SIGNED", .alreadySigned), ("ATTRIBUTE", .attribute),
    ("BACKUP_KEY_CREATED", .backupKeyCreated), ("BADARMOR", .badarmor),
    ("BADMDC", .badmdc), ("BADSIG", .badsig), ("BAD_PASSPHRASE", .badPassphrase),
    ("BEGIN_DECRYPTION", .beginDecryption), ("BEGIN_ENCRYPTION", .beginEncryption),
    ("BEGIN_SIGNING", .beginSigning), ("BEGIN_STREAM", .beginStream),
    ("CARDCTRL", .cardctrl), ("DECRYPTION_FAILED", .decryptionFailed),
    ("DECRYPTION_INFO", .decryptionInfo), ("DECRYPTION_OKAY", .decryptionOkay),
    ("DELETE_PROBLEM", .deleteProblem),
    ("DECRYPTION_COMPLIANCE_MODE", .decryptionComplianceMode), ("ENC_TO", .encTo),
    ("END_DECRYPTION", .endDecryption), ("END_ENCRYPTION", .endEncryption),
    ("END_STREAM", .endStream), ("ENTER", .enter), ("ERRMDC", .errmdc),
    ("ERROR", .error), ("ERRSIG", .errsig), ("EXPKEYSIG", .expkeysig),
    ("EXPSIG", .expsig), ("FAILURE", .failure), ("FILE_DONE", .fileDone),
    ("FILE_ERROR", .fileError), ("FILE_START", .fileStart), ("GET_BOOL", .getBool),
    ("GET_HIDDEN", .getHidden), ("GET_LINE", .getLine), ("GOODMDC", .goodmdc),
    ("GOODSIG", .goodsig), ("GOOD_PASSPHRASE", .goodPassphrase), ("GOT_IT", .gotIt),
    ("IMPORTED", .imported), ("IMPORT_OK", .importOk),
    ("IMPORT_PROBLEM", .importProblem), ("IMPORT_RES", .importRes),
    ("INQUIRE_MAXLEN", .inquireMaxlen), ("INV_RECP", .invRecp), ("INV_SGNR", .invSgnr),
    ("KEYEXPIRED", .keyexpired), ("KEYREVOKED", .keyrevoked),
    ("KEY_CONSIDERED", .keyConsidered), ("KEY_CREATED", .keyCreated),
    ("KEY_NOT_CREATED", .keyNotCreated), ("LEAVE", .leave),
    ("MISSING_PASSPHRASE", .missingPassphrase), ("MOUNTPOINT", .mountpoint),
    ("NEED_PASSPHRASE", .needPassphrase), ("NEED_PASSPHRASE_PIN", .needPassphrasePin),
    ("NEED_PASSPHRASE_SYM", .needPassphraseSym), ("NEWSIG", .newsig),
    ("NODATA", .nodata), ("NOTATION_DATA", .notationData),
    ("NOTATION_FLAGS", .notationFlags), ("NOTATION_NAME", .notationName),
    ("NO_PUBKEY", .noPubkey), ("NO_RECP", .noRecp), ("NO_SECKEY", .noSeckey),
    ("NO_SGNR", .noSgnr), ("PINENTRY_LAUNCHED", .pinentryLaunched),
    ("PKA_TRUST_BAD", .pkaTrustBad), ("PKA_TRUST_GOOD", .pkaTrustGood),
    ("PLAINTEXT", .plaintext), ("PLAINTEXT_LENGTH", .plaintextLength),
    ("POLICY_URL", .policyUrl), ("PROGRESS", .progress), ("REVKEYSIG", .revkeysig),
    ("RSA_OR_IDEA", .rsaOrIdea), ("SC_OP_FAILURE", .scOpFailure),
    ("SC_OP_SUCCESS", .scOpSuccess), ("SESSION_KEY", .sessionKey),
    ("SHM_GET", .shmGet), ("SHM_GET_BOOL", .shmGetBool),
    ("SHM_GET_HIDDEN", .shmGetHidden), ("SHM_INFO", .shmInfo),
    ("SIGEXPIRED", .sigexpired), ("SIG_CREATED", .sigCreated), ("SIG_ID", .sigId),
    ("SIG_SUBPACKET", .sigSubpacket), ("SUCCESS", .success),
    ("TOFU_STATS", .tofuStats), ("TOFU_STATS_LONG", .tofuStatsLong),
    ("TOFU_USER", .tofuUser), ("TRUNCATED", .truncated), ("TRUST_FULLY", .trustFully),
    ("TRUST_MARGINAL", .trustMarginal), ("TRUST_NEVER", .trustNever),
    ("TRUST_ULTIMATE", .trustUltimate), ("TRUST_UNDEFINED", .trustUndefined),
    ("UNEXPECTED", .unexpected), ("USERID_HINT", .useridHint), ("VALIDSIG", .validsig),
    ("VERIFICATION_COMPLIANCE_MODE", .verificationComplianceMode) ]

/-- `_gpgme_parse_status`: the names are distinct, so that the binary search in the sorted
table finds the entry with the given name wherever it stands.
-/
def parseStatus (name : Str) : Option StatusCode :=
  (statusTable.find? (fun entry => str entry.1 == name)).map Prod.snd

end Gpgme
