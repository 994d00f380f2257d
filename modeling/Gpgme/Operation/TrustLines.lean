import Mathlib.Data.List.TakeWhile
import Gpgme.Lib.Decimal
import Gpgme.Operation.Verify

/-! TRUST lines as the crypto engines emit them, with the trust model as their second word. -/

namespace CString

-----------------------------------------------------------------------------------------
-- Words and numbers
-----------------------------------------------------------------------------------------

/-- A text that a blank ends. -/
structure IsWord (text : Str) : Prop where
  filled : text ≠ []
  plain : ∀ c ∈ text, c ≠ blank

instance (text : Str) : Decidable (IsWord text) :=
  decidable_of_iff (text ≠ [] ∧ ∀ c ∈ text, c ≠ blank)
    ⟨fun ⟨filled, plain⟩ => ⟨filled, plain⟩, fun ⟨filled, plain⟩ => ⟨filled, plain⟩⟩

/-- A word ends at the blank. -/
theorem IsWord.word_append {text rest : Str} (isWord : IsWord text)
    : word (text ++ blank :: rest) = text := by
  unfold word
  rw [List.takeWhile_append_of_pos (by simpa using isWord.plain)]
  simp

/-- Nothing stands behind a word alone. -/
theorem IsWord.skipWord_eq {text : Str} (isWord : IsWord text) : skipWord text = [] := by
  unfold skipWord
  refine List.dropWhile_eq_nil_iff.mpr ?_
  intro c member
  simpa using isWord.plain c member

/-- `atoi` reads back what `%u` writes, up to the reduction to an `int`. -/
theorem atoi_decimal {n : Nat} (small : n < 2 ^ 32) : atoi (decimal n) = CInt.toInt n := by
  obtain ⟨first, rest, digits, below, -, -⟩ := decimal_digits n
  have signed := takeSign_decimal n
  have scanned := scanDigits_decimal n
  have selected : selectBase 10 (digitCode first :: rest) = (10, digitCode first :: rest) := rfl
  have digit : digitValue (digitCode first) < 10 := by
    rw [digitValue_digitCode below]
    exact below
  rw [digits] at signed scanned
  have number : scanNumber 10 (digitCode first :: rest) = some (false, n, []) := by
    unfold scanNumber
    simp only [signed, selected, if_pos digit, scanned]
  rw [digits, atoi, strtol, number]
  dsimp only
  rw [if_neg (by simp [minLong]), if_neg (by simp [maxLong]; omega)]
  rfl

end CString

namespace Gpgme

open CString

/-- A number that is stored as an error value comes back from its decimal text. -/
theorem errOfInt_atoi_decimal {n : Nat} (small : n < 2 ^ 32)
    : (errOfInt (atoi (decimal n))).toNat = n := by
  rw [atoi_decimal small, errOfInt, UInt32.toNat_ofNat']
  unfold CInt.toUnsigned CInt.toInt
  omega

-----------------------------------------------------------------------------------------
-- Lines
-----------------------------------------------------------------------------------------

/-- The codes of the lines that `parse_trust` gets. -/
def trustCodes : List StatusCode :=
  [.trustUndefined, .trustNever, .trustMarginal, .trustFully, .trustUltimate]

/-- A line with the arguments `<number> <model> <rest>`. -/
structure TrustLine where
  code : StatusCode
  number : Str
  /-- How many blanks more than one follow the number. -/
  moreBlanks : Nat
  model : Str
  rest : Str
  trust : code ∈ trustCodes
  numberWord : IsWord number
  modelWord : IsWord model
  apart : ∀ c, rest.head? = some c → c = blank

def TrustLine.args (line : TrustLine) : Str :=
  line.number ++ blank :: List.replicate line.moreBlanks blank ++ line.model ++ line.rest

/-- The signature holds what the line says about it. -/
structure TrustLine.Noted (line : TrustLine) (sig : Signature) : Prop where
  validity : sig.validity = trustValidity line.code
  reason : sig.validityReason = errOfInt (atoi line.number)
  decimalReason : ∀ n < 2 ^ 32, line.number = decimal n → sig.validityReason.toNat = n
  model : sig.chainModel = true ↔ line.model = str "chain"

/-- `parse_trust` never sees the second word: it looks for it in the first one. -/
theorem parseTrust_line (line : TrustLine) (sig : Signature)
    : parseTrust sig line.code line.args
      = (0, line.number, { sig with
          validity := trustValidity line.code
          validityReason := errOfInt (atoi line.number)
          chainModel := false }) := by
  have cut : word line.args = line.number := by
    unfold TrustLine.args
    rw [List.append_assoc, List.append_assoc, List.cons_append]
    exact line.numberWord.word_append
  unfold parseTrust
  simp only [cut, line.numberWord.skipWord_eq, if_neg line.numberWord.filled]
  rfl

/-- The handler gives a TRUST line to the current signature. -/
theorem verifyStatusHandler_trust (line : TrustLine) {ctx : Ctx} {addr : Nat} {sig : Signature}
    (current : ctx.verify.currentSig = some addr) (stored : ctx.verify.heap[addr]? = some sig)
    : verifyStatusHandler ctx line.code line.args
      = some (0, line.number, { ctx with
          verify := { ctx.verify with
            onlyNewsigSeen := false
            heap := ctx.verify.heap.set addr { sig with
              validity := trustValidity line.code
              validityReason := errOfInt (atoi line.number)
              chainModel := false } } }) := by
  have parsed := parseTrust_line line sig
  have trust := line.trust
  simp only [trustCodes, List.mem_cons, List.not_mem_nil, or_false] at trust
  unfold verifyStatusHandler verifyStatusSwitch
  rcases trust with code | code | code | code | code <;>
    rw [code] at parsed ⊢ <;>
    simp only [VerifyData.parseCurrent, current, VerifyData.parseAt, stored, parsed,
      Option.map_some]

/-- A TRUST line is stored as it was emitted exactly if its trust model is not the chain
model.
-/
theorem trust_noted_iff (line : TrustLine) {ctx : Ctx} {addr : Nat} {sig : Signature}
    (current : ctx.verify.currentSig = some addr) (stored : ctx.verify.heap[addr]? = some sig)
    : (∃ left next noted,
        verifyStatusHandler ctx line.code line.args = some (0, left, next)
        ∧ next.verify.heap[addr]? = some noted
        ∧ line.Noted noted)
      ↔ line.model ≠ str "chain" := by
  have inside : addr < ctx.verify.heap.length := (List.getElem?_eq_some_iff.mp stored).1
  rw [verifyStatusHandler_trust line current stored]
  constructor
  · rintro ⟨_, _, noted, handled, found, kept⟩ chain
    cases handled
    rw [List.getElem?_set_self inside] at found
    cases found
    exact Bool.false_ne_true (kept.model.mpr chain)
  · intro other
    refine ⟨_, _, _, rfl, List.getElem?_set_self inside, rfl, rfl, ?_, ?_⟩
    · intro n small number
      rw [number]
      exact errOfInt_atoi_decimal small
    · simp [other]

/-- A line about a certificate that was validated by the chain model. -/
def chainLine : TrustLine where
  code := .trustFully
  number := str "0"
  moreBlanks := 0
  model := str "chain"
  rest := []
  trust := by decide
  numberWord := by decide
  modelWord := by decide
  apart := by simp

/-- A context whose first signature is the current one. -/
def oneSignature : Ctx where
  verify := { heap := [{}], signatures := some 0, currentSig := some 0 }

/-- A certificate that was validated by the chain model is reported with the shell model. -/
theorem chain_model_lost
    : chainLine.args = str "0 chain"
      ∧ oneSignature.verify.currentSig = some 0
      ∧ ¬∃ left next noted,
          verifyStatusHandler oneSignature chainLine.code chainLine.args = some (0, left, next)
          ∧ next.verify.heap[0]? = some noted
          ∧ chainLine.Noted noted := by
  refine ⟨by decide, rfl, ?_⟩
  rintro ⟨left, next, noted, handled, found, kept⟩
  rw [@verifyStatusHandler_trust chainLine oneSignature 0 {} rfl rfl] at handled
  cases handled
  cases found
  exact Bool.false_ne_true (kept.model.mpr rfl)

/-- A line about the shell model is stored as it was emitted. -/
def shellLine : TrustLine :=
  { chainLine with
    moreBlanks := 1
    model := str "shell"
    rest := str " more"
    modelWord := by decide
    apart := by decide }

/-- A line with the shell model for the trust. -/
theorem shell_model_noted
    : ∃ left next noted,
        verifyStatusHandler oneSignature shellLine.code shellLine.args = some (0, left, next)
        ∧ next.verify.heap[0]? = some noted
        ∧ shellLine.Noted noted :=
  (trust_noted_iff shellLine rfl rfl).mpr (by decide)

end Gpgme
