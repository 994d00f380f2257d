import Gpgme.Error
import Gpgme.Lib.CString

/-! The flags of a context by their names: what `gpgme_set_ctx_flag` stores and
`gpgme_get_ctx_flag` returns.
-/

namespace Gpgme

open CString

-----------------------------------------------------------------------------------------
-- The functions
-----------------------------------------------------------------------------------------

/-- The fields of a context that the flags are stored in, as `gpgme_new` leaves them. -/
structure NamedFlags where
  redrawSuggested : Bool := false
  fullStatus : Bool := false
  rawDescription : Bool := false
  exportSessionKeys : Bool := false
  overrideSessionKey : Option Str := none
  autoKeyRetrieve : Bool := false
  requestOrigin : Option Str := none
  noSymkeyCache : Bool := false
  ignoreMdcError : Bool := false
  autoKeyLocate : Option Str := none
  trustModel : Option Str := none

/-- `abool` of `gpgme_set_ctx_flag`. -/
def flagIsTrue (value : Str) : Bool := value ≠ [] && atoi value ≠ 0

/-- `gpgme_set_ctx_flag` on a context, where `none` is a null pointer and `strdup` succeeds. -/
def setCtxFlag (ctx : NamedFlags) (name value : Option Str) : GpgError × NamedFlags :=
  match name, value with
  | some name, some value =>
      let abool := flagIsTrue value
      if name = str "redraw" then (0, { ctx with redrawSuggested := abool })
      else if name = str "full-status" then (0, { ctx with fullStatus := abool })
      else if name = str "raw-description" then (0, { ctx with rawDescription := abool })
      else if name = str "export-session-key" then (0, { ctx with exportSessionKeys := abool })
      else if name = str "override-session-key" then (0, { ctx with overrideSessionKey := value })
      else if name = str "auto-key-retrieve" then (0, { ctx with autoKeyRetrieve := abool })
      else if name = str "request-origin" then (0, { ctx with requestOrigin := value })
      else if name = str "no-symkey-cache" then (0, { ctx with noSymkeyCache := abool })
      else if name = str "ignore-mdc-error" then (0, { ctx with ignoreMdcError := abool })
      else if name = str "auto-key-locate" then (0, { ctx with autoKeyLocate := value })
      else if name = str "trust-model" then (0, { ctx with trustModel := value })
      else (gpgError ErrCode.unknownName, ctx)
  | _, _ => (gpgError ErrCode.invValue, ctx)

/-- `flag ? "1" : ""` -/
def boolText (flag : Bool) : Str := if flag then str "1" else []

/-- `gpgme_get_ctx_flag` on a context. -/
def getCtxFlag (ctx : NamedFlags) (name : Option Str) : Option Str :=
  match name with
  | none => none
  | some name =>
      if name = str "redraw" then boolText ctx.redrawSuggested
      else if name = str "full-status" then boolText ctx.fullStatus
      else if name = str "raw-description" then boolText ctx.rawDescription
      else if name = str "export-session-key" then boolText ctx.exportSessionKeys
      else if name = str "override-session-key" then ctx.overrideSessionKey.getD []
      else if name = str "auto-key-retrieve" then boolText ctx.autoKeyRetrieve
      else if name = str "request-origin" then ctx.requestOrigin.getD []
      else if name = str "no-symkey-cache" then boolText ctx.noSymkeyCache
      else if name = str "ignore-mdc-error" then boolText ctx.ignoreMdcError
      else if name = str "auto-key-locate" then ctx.autoKeyLocate.getD []
      else none

-----------------------------------------------------------------------------------------
-- The flags
-----------------------------------------------------------------------------------------

inductive CtxFlag where
  | redraw
  | fullStatus
  | rawDescription
  | exportSessionKey
  | overrideSessionKey
  | autoKeyRetrieve
  | requestOrigin
  | noSymkeyCache
  | ignoreMdcError
  | autoKeyLocate
  | trustModel
deriving DecidableEq

namespace CtxFlag

def name : CtxFlag → Str
  | redraw => str "redraw"
  | fullStatus => str "full-status"
  | rawDescription => str "raw-description"
  | exportSessionKey => str "export-session-key"
  | overrideSessionKey => str "override-session-key"
  | autoKeyRetrieve => str "auto-key-retrieve"
  | requestOrigin => str "request-origin"
  | noSymkeyCache => str "no-symkey-cache"
  | ignoreMdcError => str "ignore-mdc-error"
  | autoKeyLocate => str "auto-key-locate"
  | trustModel => str "trust-model"

/-- Whether the flag has a string for its value. -/
def isText : CtxFlag → Bool
  | overrideSessionKey | requestOrigin | autoKeyLocate | trustModel => true
  | _ => false

/-- The flag's field, as the string that stands for it. -/
def shown (ctx : NamedFlags) : CtxFlag → Str
  | redraw => boolText ctx.redrawSuggested
  | fullStatus => boolText ctx.fullStatus
  | rawDescription => boolText ctx.rawDescription
  | exportSessionKey => boolText ctx.exportSessionKeys
  | overrideSessionKey => ctx.overrideSessionKey.getD []
  | autoKeyRetrieve => boolText ctx.autoKeyRetrieve
  | requestOrigin => ctx.requestOrigin.getD []
  | noSymkeyCache => boolText ctx.noSymkeyCache
  | ignoreMdcError => boolText ctx.ignoreMdcError
  | autoKeyLocate => ctx.autoKeyLocate.getD []
  | trustModel => ctx.trustModel.getD []

/-- The value in the flag's field. -/
def store (ctx : NamedFlags) (value : Str) : CtxFlag → NamedFlags
  | redraw => { ctx with redrawSuggested := flagIsTrue value }
  | fullStatus => { ctx with fullStatus := flagIsTrue value }
  | rawDescription => { ctx with rawDescription := flagIsTrue value }
  | exportSessionKey => { ctx with exportSessionKeys := flagIsTrue value }
  | overrideSessionKey => { ctx with overrideSessionKey := value }
  | autoKeyRetrieve => { ctx with autoKeyRetrieve := flagIsTrue value }
  | requestOrigin => { ctx with requestOrigin := value }
  | noSymkeyCache => { ctx with noSymkeyCache := flagIsTrue value }
  | ignoreMdcError => { ctx with ignoreMdcError := flagIsTrue value }
  | autoKeyLocate => { ctx with autoKeyLocate := value }
  | trustModel => { ctx with trustModel := value }

/-- What the code shows of a flag that was set to a value. -/
def shownValue (value : Str) (flag : CtxFlag) : Str :=
  if flag.isText then value else boolText (flagIsTrue value)

variable {ctx : NamedFlags} {value : Str} {flag other : CtxFlag}

/-- No flag shows a value in a new context. -/
theorem shown_new (flag : CtxFlag) : flag.shown {} = [] := by
  cases flag <;> rfl

/-- A flag shows the value that was stored last. -/
theorem shown_store (ctx : NamedFlags) (value : Str) (flag : CtxFlag)
    : flag.shown (flag.store ctx value) = flag.shownValue value := by
  cases flag <;> rfl

/-- No two flags share a field. -/
theorem shown_store_other (different : flag ≠ other)
    : flag.shown (other.store ctx value) = flag.shown ctx := by
  cases other <;> cases flag <;> first | rfl | exact absurd rfl different

/-- The flags have different names. -/
theorem name_injective (same : flag.name = other.name) : flag = other := by
  cases flag <;> cases other <;> first | rfl | exact absurd same (by decide)

/-- A name is the one of a flag or none of them. -/
theorem name_cases (name : Str)
    : (∃ flag : CtxFlag, flag.name = name) ∨ ∀ flag : CtxFlag, flag.name ≠ name := by
  by_cases found : ∃ flag : CtxFlag, flag.name = name
  · exact .inl found
  · exact .inr (not_exists.mp found)

/-- The setter finds the field of every flag. -/
theorem setCtxFlag_name (ctx : NamedFlags) (value : Str) (flag : CtxFlag)
    : setCtxFlag ctx flag.name value = (0, flag.store ctx value) := by
  cases flag <;> rfl

/-- A name without a flag is refused. -/
theorem setCtxFlag_other {name : Str} (none : ∀ flag : CtxFlag, flag.name ≠ name)
    : setCtxFlag ctx name value = (gpgError ErrCode.unknownName, ctx) := by
  have other (flag : CtxFlag) : ¬name = flag.name := (none flag).symm
  exact (if_neg (other .redraw)).trans <| (if_neg (other .fullStatus)).trans
    <| (if_neg (other .rawDescription)).trans <| (if_neg (other .exportSessionKey)).trans
    <| (if_neg (other .overrideSessionKey)).trans <| (if_neg (other .autoKeyRetrieve)).trans
    <| (if_neg (other .requestOrigin)).trans <| (if_neg (other .noSymkeyCache)).trans
    <| (if_neg (other .ignoreMdcError)).trans <| (if_neg (other .autoKeyLocate)).trans
    <| if_neg (other .trustModel)

/-- The getter finds the field of every flag but the trust model. -/
theorem getCtxFlag_name (ctx : NamedFlags) (flag : CtxFlag)
    : getCtxFlag ctx flag.name = if flag = trustModel then none else some (flag.shown ctx) := by
  cases flag <;> rfl

end CtxFlag

-----------------------------------------------------------------------------------------
-- Sequences of calls
-----------------------------------------------------------------------------------------

/-- The arguments of a call of the setter. -/
abbrev FlagCall := Option Str × Option Str

/-- The context after calls from a new one. -/
def runFlagCalls (calls : List FlagCall) : NamedFlags :=
  calls.foldl (fun ctx call => (setCtxFlag ctx call.1 call.2).2) {}

/-- The value of the last call with a name that has one. -/
def lastFlagValue (calls : List FlagCall) (name : Str) : Option Str :=
  (calls.filterMap fun call => if call.1 = some name then call.2 else none).getLast?

/-- The last call is made on what the others left. -/
theorem runFlagCalls_concat (calls : List FlagCall) (call : FlagCall)
    : runFlagCalls (calls ++ [call])
      = (setCtxFlag (runFlagCalls calls) call.1 call.2).2 := by
  rw [runFlagCalls, List.foldl_append]
  rfl

/-- The last value of a flag is that of the last call for it. -/
theorem lastFlagValue_concat (calls : List FlagCall) (call : FlagCall) (name : Str)
    : lastFlagValue (calls ++ [call]) name
      = (if call.1 = some name then call.2 else none).or (lastFlagValue calls name) := by
  rw [lastFlagValue, List.filterMap_append, List.getLast?_append, lastFlagValue]
  cases last : (if call.1 = some name then call.2 else none) <;> simp [last]

namespace CtxFlag

/-- A call with another name leaves the flag's field alone. -/
theorem shown_set_other {ctx : NamedFlags} {flag : CtxFlag} {name value : Option Str}
    (other : name ≠ some flag.name)
    : flag.shown (setCtxFlag ctx name value).2 = flag.shown ctx := by
  cases name with
  | none => rfl
  | some name =>
      cases value with
      | none => rfl
      | some value =>
          rcases name_cases name with ⟨named, rfl⟩ | none
          · rw [setCtxFlag_name]
            refine shown_store_other ?_
            rintro rfl
            exact other rfl
          · rw [setCtxFlag_other none]

/-- After every run the flag's field holds its last value, by induction on the calls. -/
theorem shown_run (flag : CtxFlag) (calls : List FlagCall)
    : flag.shown (runFlagCalls calls)
      = ((lastFlagValue calls flag.name).map fun value => flag.shownValue value).getD [] := by
  induction calls using List.reverseRecOn with
  | nil => exact flag.shown_new
  | append_singleton calls call ih =>
      obtain ⟨name, value⟩ := call
      rw [runFlagCalls_concat, lastFlagValue_concat]
      dsimp only
      by_cases own : name = some flag.name
      · subst own
        rw [if_pos rfl]
        cases value with
        | none => exact ih
        | some value =>
            rw [setCtxFlag_name]
            exact flag.shown_store _ value
      · rw [if_neg own, shown_set_other own]
        exact ih

end CtxFlag

-----------------------------------------------------------------------------------------
-- The law
-----------------------------------------------------------------------------------------

/-- The integer that a string starts with, without a bound. -/
def leadingInteger (value : Str) : Int :=
  match scanNumber 10 value with
  | none => 0
  | some (negative, magnitude, _) => if negative then -magnitude else magnitude

/-- A number within the range of `long`. -/
def clampLong (n : Int) : Int := max minLong (min maxLong n)

/-- What the getter has to return for a flag whose last value is given. -/
def flagLaw (flag : CtxFlag) (last : Option Str) : Str :=
  match last with
  | none => []
  | some value =>
      if flag.isText then value else if leadingInteger value ≠ 0 then str "1" else []

/-- The name is one that the setter takes. -/
def AcceptsFlag (name : Str) : Prop := ∃ ctx value, (setCtxFlag ctx (some name) (some value)).1 = 0

/-- The flag reads back as it was set, and calls with other names do not change it. -/
def ReadsBack (calls : List FlagCall) (name : Str) : Prop :=
  (∃ flag : CtxFlag, flag.name = name
    ∧ getCtxFlag (runFlagCalls calls) name = some (flagLaw flag (lastFlagValue calls name)))
  ∧ ∀ other value, other ≠ some name →
      getCtxFlag (setCtxFlag (runFlagCalls calls) other value).2 name
        = getCtxFlag (runFlagCalls calls) name

/-- `strtol` reads the leading integer, cut to the range of a `long`. -/
theorem strtol_leading (value : Str)
    : (strtol 10 value).value = clampLong (leadingInteger value) := by
  unfold strtol leadingInteger clampLong
  cases scanNumber 10 value with
  | none => rfl
  | some scanned =>
      obtain ⟨negative, magnitude, tail⟩ := scanned
      dsimp only
      have bounds : minLong ≤ maxLong := by decide
      split_ifs <;> simp only <;> omega

/-- A boolean flag is true for a value unless the low half of its number is zero. -/
theorem flagIsTrue_iff (value : Str)
    : flagIsTrue value = true ↔ clampLong (leadingInteger value) % 4294967296 ≠ 0 := by
  have number : atoi value = CInt.toInt (clampLong (leadingInteger value)) := by
    rw [atoi, strtol_leading]
  have zero : atoi value = 0 ↔ clampLong (leadingInteger value) % 4294967296 = 0 := by
    rw [number]
    unfold CInt.toInt
    omega
  rw [flagIsTrue, Bool.and_eq_true, decide_eq_true_iff, decide_eq_true_iff, Ne, Ne, zero]
  refine ⟨And.right, fun low => ⟨?_, low⟩⟩
  rintro rfl
  exact low (by decide)

/-- The condition under which a flag reads back: it is not the trust model, and the number that a
boolean flag was set to is not a multiple of 2^32, where a number out of range counts as the next
one in the range of `long`.
-/
def FlagSound (calls : List FlagCall) (name : Str) : Prop :=
  name ≠ str "trust-model"
  ∧ ∀ flag : CtxFlag, flag.name = name → flag.isText = false →
      ∀ value, lastFlagValue calls name = some value → leadingInteger value ≠ 0 →
        clampLong (leadingInteger value) % 4294967296 ≠ 0

/-- What is shown of a flag is what the law asks for, exactly for these values. -/
theorem shownValue_iff (flag : CtxFlag) (value : Str)
    : flag.shownValue value = flagLaw flag (some value)
      ↔ (flag.isText = false → leadingInteger value ≠ 0 →
          clampLong (leadingInteger value) % 4294967296 ≠ 0) := by
  unfold CtxFlag.shownValue flagLaw
  by_cases text : flag.isText = true
  · simp [text]
  rw [Bool.not_eq_true] at text
  simp only [text, Bool.false_eq_true, if_false, true_implies, boolText]
  by_cases zero : leadingInteger value = 0
  · have low : flagIsTrue value = false := by
      rw [← Bool.not_eq_true, flagIsTrue_iff, zero]
      decide
    simp [zero, low]
  · have one : str "1" ≠ [] := by decide
    rw [← flagIsTrue_iff]
    cases flagIsTrue value <;> simp [zero, one.symm]

/-- An accepted flag reads back as it was set exactly under the condition. -/
theorem readsBack_iff {calls : List FlagCall} {name : Str} (accepted : AcceptsFlag name)
    : ReadsBack calls name ↔ FlagSound calls name := by
  obtain ⟨ctx, value, success⟩ := accepted
  rcases CtxFlag.name_cases name with ⟨flag, rfl⟩ | unknown
  · have frame : ∀ other value, other ≠ some flag.name →
        getCtxFlag (setCtxFlag (runFlagCalls calls) other value).2 flag.name
          = getCtxFlag (runFlagCalls calls) flag.name := by
      intro other value different
      rw [flag.getCtxFlag_name, flag.getCtxFlag_name, CtxFlag.shown_set_other different]
    have trustModel : flag = .trustModel ↔ flag.name = str "trust-model" :=
      ⟨fun same => same ▸ rfl, fun same => CtxFlag.name_injective same⟩
    have law : flag.shown (runFlagCalls calls) = flagLaw flag (lastFlagValue calls flag.name)
        ↔ ∀ value, lastFlagValue calls flag.name = some value →
            (flag.isText = false → leadingInteger value ≠ 0 →
              clampLong (leadingInteger value) % 4294967296 ≠ 0) := by
      rw [flag.shown_run]
      cases lastFlagValue calls flag.name with
      | none => simp [flagLaw]
      | some value =>
          rw [Option.map_some, Option.getD_some, shownValue_iff]
          simp
    constructor
    · rintro ⟨⟨other, same, shown⟩, -⟩
      obtain rfl := CtxFlag.name_injective same
      rw [other.getCtxFlag_name] at shown
      split at shown
      · cases shown
      · next noTrust =>
          refine ⟨fun same => noTrust (trustModel.mpr same), ?_⟩
          intro third same isBool value last
          obtain rfl := CtxFlag.name_injective same
          exact law.mp (Option.some.inj shown) value last isBool
    · rintro ⟨noTrust, sound⟩
      refine ⟨⟨flag, rfl, ?_⟩, frame⟩
      rw [flag.getCtxFlag_name, if_neg (fun same => noTrust (trustModel.mp same))]
      exact congrArg some (law.mpr fun value last isBool => sound flag rfl isBool value last)
  · rw [CtxFlag.setCtxFlag_other unknown] at success
    exact absurd (show gpgError ErrCode.unknownName = 0 from success) (by decide)

/-- A flag that is set to its usual value reads back. -/
theorem full_status_reads_back
    : AcceptsFlag (str "full-status")
      ∧ ReadsBack [(str "full-status", str "1")] (str "full-status") := by
  have accepted : AcceptsFlag (str "full-status") := ⟨{}, str "1", rfl⟩
  refine ⟨accepted, (readsBack_iff accepted).mpr ⟨by decide, ?_⟩⟩
  intro flag _ _ value last _
  obtain rfl : value = str "1" := (Option.some.inj last).symm
  decide

/-- The getter does not know the trust model, and 2^32 is true as a value. -/
theorem flags_not_read_back
    : AcceptsFlag (str "trust-model")
      ∧ ¬ReadsBack [(str "trust-model", str "direct")] (str "trust-model")
      ∧ AcceptsFlag (str "full-status")
      ∧ ¬ReadsBack [(str "full-status", str "4294967296")] (str "full-status") := by
  refine ⟨⟨{}, str "direct", rfl⟩, ?_, ⟨{}, str "1", rfl⟩, ?_⟩
  · rintro ⟨⟨flag, -, shown⟩, -⟩
    exact absurd (show none = some _ from shown) (by simp)
  · rintro ⟨⟨flag, same, shown⟩, -⟩
    obtain rfl : flag = .fullStatus := CtxFlag.name_injective same
    exact absurd shown (by decide)

end Gpgme
